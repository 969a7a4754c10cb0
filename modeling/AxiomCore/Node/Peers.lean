import AxiomCore.Lib.Run
import AxiomCore.Node.Build

/-!
# The peer table

A node learns of a peer in two ways: it dials an address and the peer answers (`connect`), or a
greeting of the peer arrives (`register_peer`). Greetings and answers are signed and carry a time. A
greeting of a known peer is accepted only if its time is later than the last one accepted; else
someone could send an old greeting again, from another address, and have the peer's address
replaced.

`NetworkManager` is the table, with the tables that follow it. The bytes of greetings are not
modelled: an event has what was verified of the message, the identity and the time.

Source: `forge-node/src/network.rs`.
-/

namespace AxiomCore

open Lib List

/-! ## The table -/

/-- What a node keeps of a peer. Times of the node's own clock are in nanoseconds. -/
structure PeerConnection where
  addr : SocketAddr
  /-- Its greeting arrived; else this node dialed it. -/
  discovered : Bool
  /-- The signed time of its last greeting or answer. -/
  lastHelloTs : UInt64
  lastSeen : Nat

structure NetworkManager where
  maxPeers : Nat
  peers : AList fun _ : NodeId => PeerConnection
  knownPeers : Finset NodeId
  /-- Where they are, and the rest of what relaying needs. -/
  relay : Relay

namespace NetworkManager

/-- `connect`, when the answer is there: the entry is written, whatever was there. -/
def connect (m : NetworkManager) (peerId : NodeId) (addr : SocketAddr) (helloTs : UInt64)
    (now : Nat) : NetworkManager :=
  { m with
    peers := m.peers.insert peerId ⟨addr, false, helloTs, now⟩
    knownPeers := insert peerId m.knownPeers
    relay := { m.relay with peerAddrs := m.relay.peerAddrs.insert peerId addr } }

/-- The discovered peer that was seen least recently. A hash map has no order: `tie` decides between
those that were seen at the same time. -/
def evictable (m : NetworkManager) (tie : Nat) : Option NodeId :=
  let discovered := m.peers.entries.filter fun entry => entry.2.discovered
  let oldest := discovered.filter fun entry =>
    discovered.all fun other => entry.2.lastSeen ≤ other.2.lastSeen
  oldest[tie % oldest.length]?.map fun entry => entry.1

/-- A peer leaves, and what was reachable through it is not reachable any more. -/
def evict (m : NetworkManager) (id : NodeId) : NetworkManager :=
  { m with
    peers := m.peers.erase id
    knownPeers := m.knownPeers.erase id
    relay := { m.relay with
      peerAddrs := m.relay.peerAddrs.erase id
      reachableVia := fun origin =>
        match m.relay.reachableVia origin with
        | some (relay, time) => if relay = id then none else some (relay, time)
        | none => none } }

def insertDiscovered (m : NetworkManager) (nodeId : NodeId) (addr : SocketAddr)
    (helloTs : UInt64) (now : Nat) : NetworkManager :=
  { m with
    peers := m.peers.insert nodeId ⟨addr, true, helloTs, now⟩
    knownPeers := insert nodeId m.knownPeers
    relay := { m.relay with peerAddrs := m.relay.peerAddrs.insert nodeId addr } }

def registerPeer (m : NetworkManager) (nodeId : NodeId) (addr : SocketAddr) (helloTs : UInt64)
    (now tie : Nat) : NetworkManager :=
  match m.peers.lookup nodeId with
  | some existing =>
    if helloTs ≤ existing.lastHelloTs then m
    else
      { m with
        peers := m.peers.insert nodeId
          { existing with addr := addr, lastHelloTs := helloTs, lastSeen := now }
        relay := { m.relay with peerAddrs := m.relay.peerAddrs.insert nodeId addr } }
  | none =>
    if m.peers.entries.length ≥ m.maxPeers then
      match m.evictable tie with
      | some id => (m.evict id).insertDiscovered nodeId addr helloTs now
      | none => m
    else m.insertDiscovered nodeId addr helloTs now

end NetworkManager

open NetworkManager

inductive PeerEvent where
  /-- `connect(addr)` gets its answer. -/
  | connected (peerId : NodeId) (addr : SocketAddr) (helloTs : UInt64) (now : Nat)
  | greeted (peerId : NodeId) (addr : SocketAddr) (helloTs : UInt64) (now tie : Nat)

namespace PeerEvent

def peerId : PeerEvent → NodeId
  | .connected peerId .. | .greeted peerId .. => peerId

def addr : PeerEvent → SocketAddr
  | .connected _ addr .. | .greeted _ addr .. => addr

def helloTs : PeerEvent → UInt64
  | .connected _ _ helloTs .. | .greeted _ _ helloTs .. => helloTs

end PeerEvent

namespace NetworkManager

def start (maxPeers : Nat) (relay : Relay) : NetworkManager :=
  ⟨maxPeers, ∅, ∅, { relay with peerAddrs := ∅ }⟩

def step (m : NetworkManager) : PeerEvent → NetworkManager
  | .connected peerId addr helloTs now => m.connect peerId addr helloTs now
  | .greeted peerId addr helloTs now tie => m.registerPeer peerId addr helloTs now tie

def accepts (m : NetworkManager) : PeerEvent → Bool
  | .connected .. => true
  | .greeted peerId _ helloTs _ tie =>
    match m.peers.lookup peerId with
    | some existing => existing.lastHelloTs < helloTs
    | none => m.peers.entries.length < m.maxPeers || (m.evictable tie).isSome

/-! ## What a message does to an entry -/

lemma lookup_insertDiscovered (m : NetworkManager) (nodeId : NodeId) (addr : SocketAddr)
    (helloTs : UInt64) (now : Nat) (node : NodeId) :
    (m.insertDiscovered nodeId addr helloTs now).peers.lookup node =
      if node = nodeId then some ⟨addr, true, helloTs, now⟩ else m.peers.lookup node := by
  unfold insertDiscovered
  split_ifs with hnode
  · rw [hnode]
    exact AList.lookup_insert _
  · exact AList.lookup_insert_ne hnode

variable {node : NodeId} {conn : PeerConnection} {m : NetworkManager}

lemma lookup_evict (m : NetworkManager) (id : NodeId)
    (h : (m.evict id).peers.lookup node = some conn) : m.peers.lookup node = some conn := by
  by_cases hnode : node = id
  · subst hnode
    rw [evict, AList.lookup_erase] at h
    cases h
  · rwa [evict, AList.lookup_erase_ne hnode] at h

/-- **What `register_peer` can do**: refuse the greeting, refresh the entry, evict a peer and add
the new one, or only add it. -/
theorem registerPeer_cases (m : NetworkManager) (nodeId : NodeId) (addr : SocketAddr)
    (helloTs : UInt64) (now tie : Nat) :
    (m.accepts (.greeted nodeId addr helloTs now tie) = false ∧
        m.registerPeer nodeId addr helloTs now tie = m) ∨
      (m.accepts (.greeted nodeId addr helloTs now tie) ∧
        ((∃ existing, m.peers.lookup nodeId = some existing ∧
            m.registerPeer nodeId addr helloTs now tie =
              { m with
                peers := m.peers.insert nodeId
                  { existing with addr := addr, lastHelloTs := helloTs, lastSeen := now }
                relay := { m.relay with peerAddrs := m.relay.peerAddrs.insert nodeId addr } }) ∨
          (∃ id, m.peers.lookup nodeId = none ∧ m.evictable tie = some id ∧
            m.registerPeer nodeId addr helloTs now tie =
              (m.evict id).insertDiscovered nodeId addr helloTs now) ∨
          (m.peers.lookup nodeId = none ∧ m.peers.entries.length < m.maxPeers ∧
            m.registerPeer nodeId addr helloTs now tie =
              m.insertDiscovered nodeId addr helloTs now))) := by
  unfold registerPeer
  rcases hexisting : m.peers.lookup nodeId with _ | existing
  · by_cases hfull : m.peers.entries.length ≥ m.maxPeers
    · rcases hvictim : m.evictable tie with _ | id
      · refine .inl ⟨?_, by simp only [if_pos hfull]⟩
        simpa [accepts, hexisting, hvictim] using hfull
      · refine .inr ⟨by simp [accepts, hexisting, hvictim], .inr (.inl ⟨id, rfl, rfl, ?_⟩)⟩
        simp only [if_pos hfull]
    · have hroom : m.peers.entries.length < m.maxPeers := not_le.mp hfull
      refine .inr ⟨by simp [accepts, hexisting, hroom], .inr (.inr ⟨rfl, hroom, ?_⟩)⟩
      simp only [if_neg hfull]
  · by_cases hold : helloTs ≤ existing.lastHelloTs
    · refine .inl ⟨?_, by simp only [if_pos hold]⟩
      simpa [accepts, hexisting] using hold
    · refine .inr ⟨?_, .inl ⟨existing, rfl, by simp only [if_neg hold]⟩⟩
      simpa [accepts, hexisting] using UInt64.not_le.mp hold

/-- **What a message does to an entry.** The sender's entry is written if the message is accepted,
and a greeting of a peer in the table is accepted only if it is later; any other entry that is still
there is as it was. -/
theorem lookup_step {e : PeerEvent}
    (h : (m.step e).peers.lookup node = some conn) :
    (node = e.peerId ∧ m.accepts e ∧ conn.addr = e.addr ∧ conn.lastHelloTs = e.helloTs) ∨
      ((node = e.peerId → m.accepts e = false) ∧ m.peers.lookup node = some conn) := by
  cases e with
  | connected peerId addr helloTs now =>
    by_cases hnode : node = peerId
    · subst hnode
      rw [step, connect, AList.lookup_insert] at h
      cases h
      exact .inl ⟨rfl, rfl, rfl, rfl⟩
    · rw [step, connect, AList.lookup_insert_ne hnode] at h
      exact .inr ⟨fun heq => absurd heq hnode, h⟩
  | greeted peerId addr helloTs now tie =>
    rcases registerPeer_cases m peerId addr helloTs now tie with ⟨hrefused, hsame⟩ | ⟨haccepts,
      ⟨existing, -, hnew⟩ | ⟨id, -, -, hnew⟩ | ⟨-, -, hnew⟩⟩
    · rw [step, hsame] at h
      exact .inr ⟨fun _ => hrefused, h⟩
    · rw [step, hnew] at h
      by_cases hnode : node = peerId
      · subst hnode
        rw [AList.lookup_insert] at h
        cases h
        exact .inl ⟨rfl, haccepts, rfl, rfl⟩
      · rw [AList.lookup_insert_ne hnode] at h
        exact .inr ⟨fun heq => absurd heq hnode, h⟩
    · rw [step, hnew, lookup_insertDiscovered] at h
      split_ifs at h with hnode
      · cases h
        exact .inl ⟨hnode, haccepts, rfl, rfl⟩
      · exact .inr ⟨fun heq => absurd heq hnode, lookup_evict m id h⟩
    · rw [step, hnew, lookup_insertDiscovered] at h
      split_ifs at h with hnode
      · cases h
        exact .inl ⟨hnode, haccepts, rfl, rfl⟩
      · exact .inr ⟨fun heq => absurd heq hnode, h⟩

lemma lt_of_accepts_greeted {peerId : NodeId} {addr : SocketAddr}
    {helloTs : UInt64} {now tie : Nat} (h : m.accepts (.greeted peerId addr helloTs now tie))
    {existing : PeerConnection} (hexisting : m.peers.lookup peerId = some existing) :
    existing.lastHelloTs < helloTs := by
  simpa [accepts, hexisting] using h

/-! ## The tables that follow -/

structure Mirrored (m : NetworkManager) : Prop where
  addrs : ∀ node, m.relay.peerAddrs.lookup node = (m.peers.lookup node).map (·.addr)
  known : ∀ node, node ∈ m.knownPeers ↔ node ∈ m.peers

lemma Mirrored.insert (h : m.Mirrored)
    {knownPeers : Finset NodeId}
    (hknown : ∀ other, other ∈ knownPeers ↔ other = node ∨ other ∈ m.knownPeers) :
    Mirrored { m with
      peers := m.peers.insert node conn
      knownPeers := knownPeers
      relay := { m.relay with peerAddrs := m.relay.peerAddrs.insert node conn.addr } } := by
  constructor
  · intro other
    by_cases hother : other = node
    · subst hother
      simp
    · simpa [AList.lookup_insert_ne hother] using h.addrs other
  · intro other
    rw [hknown, AList.mem_insert, h.known]

lemma Mirrored.evict (h : m.Mirrored) (id : NodeId) :
    (m.evict id).Mirrored := by
  constructor
  · intro other
    by_cases hother : other = id
    · subst hother
      simp [NetworkManager.evict]
    · simpa [NetworkManager.evict, AList.lookup_erase_ne hother] using h.addrs other
  · intro other
    simp [NetworkManager.evict, h.known]

lemma mirrored_step (m : NetworkManager) (e : PeerEvent) (h : m.Mirrored) :
    (m.step e).Mirrored := by
  have hadded : ∀ {m : NetworkManager} (node other : NodeId),
      other ∈ insert node m.knownPeers ↔ other = node ∨ other ∈ m.knownPeers :=
    fun _ _ => Finset.mem_insert
  cases e with
  | connected peerId addr helloTs now => exact h.insert (hadded peerId)
  | greeted peerId addr helloTs now tie =>
    rcases registerPeer_cases m peerId addr helloTs now tie with ⟨-, hsame⟩ | ⟨-,
      ⟨existing, hexisting, hnew⟩ | ⟨id, -, -, hnew⟩ | ⟨-, -, hnew⟩⟩
    · rw [step, hsame]
      exact h
    · rw [step, hnew]
      -- the peer is known already
      have hknown : peerId ∈ m.knownPeers :=
        (h.known peerId).mpr (AList.lookup_isSome.mp (by simp [hexisting]))
      refine h.insert fun other => ?_
      constructor
      · exact .inr
      · rintro (rfl | hother)
        · exact hknown
        · exact hother
    · rw [step, hnew]
      exact (h.evict id).insert (hadded peerId)
    · rw [step, hnew]
      exact h.insert (hadded peerId)

end NetworkManager

lemma shared_tables_mirror_peers (maxPeers : Nat) (relay : Relay) (es : List PeerEvent) :
    (run NetworkManager.step (.start maxPeers relay) es).Mirrored := by
  have hstart : (NetworkManager.start maxPeers relay).Mirrored := by
    constructor
    · intro node
      rfl
    · intro node
      simp [NetworkManager.start]
  exact run_invariant mirrored_step hstart es

/-! ## Eviction -/

namespace NetworkManager

variable {m : NetworkManager} {nodeId : NodeId}

lemma evictable_spec {tie : Nat} {id : NodeId}
    (h : m.evictable tie = some id) :
    ∃ conn, m.peers.lookup id = some conn ∧ conn.discovered ∧
      ∀ other otherConn, m.peers.lookup other = some otherConn → otherConn.discovered →
        conn.lastSeen ≤ otherConn.lastSeen := by
  obtain ⟨⟨node, conn⟩, hget, rfl⟩ := Option.map_eq_some_iff.mp h
  obtain ⟨hdiscovered, holdest⟩ := mem_filter.mp (mem_of_getElem? hget)
  obtain ⟨hentry, hflag⟩ := mem_filter.mp hdiscovered
  refine ⟨conn, AList.mem_lookup_iff.mpr hentry, hflag, ?_⟩
  intro other otherConn hother hotherFlag
  have hmem : (⟨other, otherConn⟩ : Sigma fun _ : NodeId => PeerConnection) ∈
      m.peers.entries.filter fun entry => entry.2.discovered :=
    mem_filter.mpr ⟨AList.mem_lookup_iff.mp hother, hotherFlag⟩
  exact of_decide_eq_true (all_eq_true.mp holdest _ hmem)

/-- The peer is in the table, and this node dialed it. -/
def Dialed (m : NetworkManager) (node : NodeId) : Prop :=
  ∃ conn, m.peers.lookup node = some conn ∧ conn.discovered = false

lemma dialed_connect (m : NetworkManager) (peerId : NodeId) (addr : SocketAddr)
    (helloTs : UInt64) (now : Nat) : (m.connect peerId addr helloTs now).Dialed peerId :=
  ⟨_, AList.lookup_insert _, rfl⟩

lemma dialed_step (m : NetworkManager) (e : PeerEvent) {node : NodeId} (h : m.Dialed node) :
    (m.step e).Dialed node := by
  obtain ⟨conn, hconn, hdialed⟩ := h
  cases e with
  | connected peerId addr helloTs now =>
    by_cases hnode : node = peerId
    · subst hnode
      exact dialed_connect m node addr helloTs now
    · exact ⟨conn, (AList.lookup_insert_ne hnode).trans hconn, hdialed⟩
  | greeted peerId addr helloTs now tie =>
    rcases registerPeer_cases m peerId addr helloTs now tie with ⟨-, hsame⟩ | ⟨-,
      ⟨existing, hexisting, hnew⟩ | ⟨id, hnone, hvictim, hnew⟩ | ⟨hnone, -, hnew⟩⟩
    · rw [step, hsame]
      exact ⟨conn, hconn, hdialed⟩
    · rw [step, hnew]
      by_cases hnode : node = peerId
      · subst hnode
        cases hconn.symm.trans hexisting
        exact ⟨_, AList.lookup_insert _, hdialed⟩
      · exact ⟨conn, (AList.lookup_insert_ne hnode).trans hconn, hdialed⟩
    · rw [step, hnew]
      have hnode : node ≠ peerId := by
        rintro rfl
        rw [hnone] at hconn
        cases hconn
      -- the one that leaves is a discovered peer
      have hstays : node ≠ id := by
        rintro rfl
        obtain ⟨victim, hlookup, hdiscovered, -⟩ := evictable_spec hvictim
        cases hconn.symm.trans hlookup
        rw [hdialed] at hdiscovered
        cases hdiscovered
      refine ⟨conn, ?_, hdialed⟩
      rw [lookup_insertDiscovered, if_neg hnode, evict, AList.lookup_erase_ne hstays, hconn]
    · rw [step, hnew]
      have hnode : node ≠ peerId := by
        rintro rfl
        rw [hnone] at hconn
        cases hconn
      refine ⟨conn, ?_, hdialed⟩
      rw [lookup_insertDiscovered, if_neg hnode, hconn]

/-! ### The size of the table -/

lemma length_insertDiscovered
    (h : m.peers.lookup nodeId = none) (addr : SocketAddr) (helloTs : UInt64) (now : Nat) :
    (m.insertDiscovered nodeId addr helloTs now).peers.entries.length =
      m.peers.entries.length + 1 := by
  rw [insertDiscovered, AList.entries_insert_of_notMem (AList.lookup_eq_none.mp h)]
  rfl

lemma length_evict {id : NodeId} {conn : PeerConnection}
    (h : m.peers.lookup id = some conn) :
    (m.evict id).peers.entries.length + 1 = m.peers.entries.length := by
  have hkey : id ∈ m.peers.keys := AList.lookup_isSome.mp (by simp [h])
  have hpos := length_pos_of_mem hkey
  have hkeys : (m.evict id).peers.keys.length = m.peers.keys.length - 1 := by
    rw [evict, AList.keys_erase]
    exact length_erase_of_mem hkey
  simp only [AList.keys, List.keys, length_map] at hkeys hpos
  omega

lemma length_refresh {existing : PeerConnection}
    (h : m.peers.lookup nodeId = some existing) (conn : PeerConnection) :
    (m.peers.insert nodeId conn).entries.length = m.peers.entries.length := by
  have hkey : nodeId ∈ m.peers.keys := AList.lookup_isSome.mp (by simp [h])
  have hpos := length_pos_of_mem hkey
  have hkeys : (m.peers.insert nodeId conn).keys.length = m.peers.keys.length := by
    rw [AList.keys_insert, length_cons, length_erase_of_mem hkey]
    omega
  simpa only [AList.keys, List.keys, length_map] using hkeys

lemma length_registerPeer (m : NetworkManager) (nodeId : NodeId) (addr : SocketAddr)
    (helloTs : UInt64) (now tie : Nat) :
    (m.registerPeer nodeId addr helloTs now tie).peers.entries.length ≤
      max m.maxPeers m.peers.entries.length := by
  rcases registerPeer_cases m nodeId addr helloTs now tie with ⟨-, hsame⟩ | ⟨-,
    ⟨existing, hexisting, hnew⟩ | ⟨id, hnone, hvictim, hnew⟩ | ⟨hnone, hroom, hnew⟩⟩
  · rw [hsame]
    exact le_max_right _ _
  · rw [hnew, length_refresh hexisting]
    exact le_max_right _ _
  · obtain ⟨conn, hlookup, -, -⟩ := evictable_spec hvictim
    have hgone : (m.evict id).peers.lookup nodeId = none := by
      rcases hthere : (m.evict id).peers.lookup nodeId with _ | conn
      · rfl
      · rw [lookup_evict m id hthere] at hnone
        cases hnone
    rw [hnew, length_insertDiscovered hgone, length_evict hlookup]
    exact le_max_right _ _
  · rw [hnew, length_insertDiscovered hnone]
    exact le_max_of_le_left hroom

lemma maxPeers_step (m : NetworkManager) (e : PeerEvent) : (m.step e).maxPeers = m.maxPeers := by
  cases e with
  | connected peerId addr helloTs now => rfl
  | greeted peerId addr helloTs now tie =>
    rcases registerPeer_cases m peerId addr helloTs now tie with
      ⟨-, h⟩ | ⟨-, ⟨_, -, h⟩ | ⟨_, -, -, h⟩ | ⟨-, -, h⟩⟩
    all_goals rw [step, h]
    all_goals rfl

/-! ### Who leaves -/

lemma evicted_of_left {addr : SocketAddr}
    {helloTs : UInt64} {now tie : Nat} {victim : NodeId} (hthere : victim ∈ m.peers)
    (hgone : victim ∉ (m.registerPeer nodeId addr helloTs now tie).peers) :
    m.evictable tie = some victim ∧
      ∀ origin relay time, (m.registerPeer nodeId addr helloTs now tie).relay.reachableVia origin =
        some (relay, time) → relay ≠ victim := by
  rcases registerPeer_cases m nodeId addr helloTs now tie with ⟨-, hsame⟩ | ⟨-,
    ⟨existing, -, hnew⟩ | ⟨id, -, hvictim, hnew⟩ | ⟨-, -, hnew⟩⟩
  · rw [hsame] at hgone
    exact absurd hthere hgone
  · rw [hnew] at hgone
    exact absurd ((AList.mem_insert _).mpr (.inr hthere)) hgone
  · rw [hnew] at hgone ⊢
    obtain rfl : victim = id := by
      by_contra hother
      apply hgone
      apply (AList.mem_insert _).mpr
      exact .inr (AList.mem_erase.mpr ⟨hother, hthere⟩)
    refine ⟨hvictim, ?_⟩
    intro origin relay time hroute
    rintro rfl
    simp only [insertDiscovered, evict] at hroute
    split at hroute
    · split_ifs at hroute with hrelay
      obtain ⟨rfl, -⟩ := Prod.mk.inj (Option.some.inj hroute)
      exact hrelay rfl
    · cases hroute
  · rw [hnew] at hgone
    exact absurd ((AList.mem_insert _).mpr (.inr hthere)) hgone

end NetworkManager

/-- **The peer tables stay coherent.** After any completed calls of `connect` and calls of
`register_peer`, the three tables have the same keys and addresses; a peer that is dialed stays in
the table, as a dialed one; and a greeting lets the table grow to the limit at most, and the peer
that leaves for it is a discovered one that was seen least recently, through which no route goes any
more. -/
theorem peer_tables_coherent (maxPeers : Nat) (relay : Relay) (es : List PeerEvent) :
    let m := run NetworkManager.step (.start maxPeers relay) es
    (m.knownPeers = m.peers.keys.toFinset ∧
      m.relay.peerAddrs.keys.toFinset = m.peers.keys.toFinset) ∧
    (∀ node conn, m.peers.lookup node = some conn →
      m.relay.peerAddrs.lookup node = some conn.addr) ∧
    (∀ peerId addr helloTs now after,
      (run NetworkManager.step (m.connect peerId addr helloTs now) after).Dialed peerId) ∧
    ∀ nodeId addr helloTs now tie,
      let m' := m.registerPeer nodeId addr helloTs now tie
      m'.peers.entries.length ≤ max maxPeers m.peers.entries.length ∧
      ∀ victim, victim ∈ m.peers → victim ∉ m'.peers →
        (∃ conn, m.peers.lookup victim = some conn ∧ conn.discovered ∧
          ∀ other otherConn, m.peers.lookup other = some otherConn → otherConn.discovered →
            conn.lastSeen ≤ otherConn.lastSeen) ∧
        ∀ origin via time, m'.relay.reachableVia origin = some (via, time) → via ≠ victim := by
  intro m
  have hmirrored : m.Mirrored := shared_tables_mirror_peers maxPeers relay es
  have hlimit : m.maxPeers = maxPeers :=
    run_invariant (fun s e hs => (maxPeers_step s e).trans hs) rfl es
  refine ⟨⟨?_, ?_⟩, ?_, ?_, ?_⟩
  · ext node
    rw [hmirrored.known, mem_toFinset, ← AList.mem_keys]
  · ext node
    rw [mem_toFinset, mem_toFinset, ← AList.mem_keys, ← AList.mem_keys,
      ← AList.lookup_isSome, ← AList.lookup_isSome, hmirrored.addrs, Option.isSome_map]
  · intro node conn hconn
    rw [hmirrored.addrs, hconn]
    rfl
  · intro peerId addr helloTs now after
    have hdialed := dialed_connect m peerId addr helloTs now
    exact run_invariant (fun s e => dialed_step s e) hdialed after
  · intro nodeId addr helloTs now tie m'
    refine ⟨hlimit ▸ m.length_registerPeer nodeId addr helloTs now tie, ?_⟩
    intro victim hthere hgone
    obtain ⟨hvictim, hroutes⟩ := evicted_of_left hthere hgone
    exact ⟨evictable_spec hvictim, hroutes⟩

/-! ## Replays -/

/-- The table, and for each peer in it the signed times of the messages accepted since it is in
it. -/
structure PeerHistory where
  manager : NetworkManager
  accepted : NodeId → List UInt64

namespace PeerHistory

def start (maxPeers : Nat) (relay : Relay) : PeerHistory := ⟨.start maxPeers relay, fun _ => []⟩

def step (s : PeerHistory) (e : PeerEvent) : PeerHistory where
  manager := s.manager.step e
  accepted node :=
    if (s.manager.step e).peers.lookup node = none then []
    else if node = e.peerId ∧ s.manager.accepts e then s.accepted node ++ [e.helloTs]
    else s.accepted node

/-- **A step protected from replays.** For a peer that stays in the table, the recorded time does
not go back, and the address is only replaced by the one that a message of the peer came from, and
if this message is later than every one accepted before. -/
def Protected (s : PeerHistory) (e : PeerEvent) : Prop :=
  ∀ node old new, s.manager.peers.lookup node = some old →
    (s.step e).manager.peers.lookup node = some new →
      old.lastHelloTs ≤ new.lastHelloTs ∧
        (new.addr ≠ old.addr →
          node = e.peerId ∧ new.addr = e.addr ∧ ∀ ts ∈ s.accepted node, ts < e.helloTs)

/-- An answer to `connect` from a peer in the table is later than the recorded time, or has the same
time and comes from the same address. -/
def AnswerIsFresh (s : PeerHistory) : PeerEvent → Prop
  | .connected peerId addr helloTs _ =>
    ∀ old, s.manager.peers.lookup peerId = some old →
      old.lastHelloTs < helloTs ∨ (old.lastHelloTs = helloTs ∧ old.addr = addr)
  | .greeted .. => True

structure Latest (s : PeerHistory) : Prop where
  /-- Of a peer that is not in the table there is nothing. -/
  forgotten : ∀ node, s.manager.peers.lookup node = none → s.accepted node = []
  mem : ∀ node conn, s.manager.peers.lookup node = some conn →
    conn.lastHelloTs ∈ s.accepted node
  le : ∀ node conn, s.manager.peers.lookup node = some conn →
    ∀ ts ∈ s.accepted node, ts ≤ conn.lastHelloTs

variable {s : PeerHistory} {e : PeerEvent}

lemma le_of_accepts (hfresh : s.AnswerIsFresh e)
    (haccepts : s.manager.accepts e) {old : PeerConnection}
    (hold : s.manager.peers.lookup e.peerId = some old) :
    old.lastHelloTs < e.helloTs ∨ (old.lastHelloTs = e.helloTs ∧ old.addr = e.addr) := by
  cases e with
  | connected peerId addr helloTs now => exact hfresh old hold
  | greeted peerId addr helloTs now tie =>
    exact .inl (lt_of_accepts_greeted haccepts hold)

lemma protected_iff (s : PeerHistory) (e : PeerEvent) (hlatest : s.Latest) :
    s.Protected e ↔ s.AnswerIsFresh e := by
  constructor
  · intro hprotected
    cases e with
    | greeted => trivial
    | connected peerId addr helloTs now =>
      intro old hold
      obtain ⟨hle, haddr⟩ := hprotected peerId old ⟨addr, false, helloTs, now⟩ hold
        (AList.lookup_insert _)
      by_cases hsame : old.addr = addr
      · rcases UInt64.lt_or_eq_of_le hle with hlt | heq
        · exact .inl hlt
        · exact .inr ⟨heq, hsame⟩
      · exact .inl ((haddr (Ne.symm hsame)).2.2 _ (hlatest.mem peerId old hold))
  · intro hfresh node old new hold hnew
    rcases lookup_step hnew with ⟨rfl, haccepts, haddr, hts⟩ | ⟨-, hsame⟩
    · rw [hts, haddr]
      rcases le_of_accepts hfresh haccepts hold with hlt | ⟨heq, hsame⟩
      · refine ⟨UInt64.le_of_lt hlt, fun _ => ⟨rfl, rfl, ?_⟩⟩
        intro ts hmem
        exact UInt64.lt_of_le_of_lt (hlatest.le _ old hold ts hmem) hlt
      · exact ⟨UInt64.le_of_eq heq, fun hchanged => absurd hsame.symm hchanged⟩
    · -- the entry was not written
      cases hold.symm.trans hsame
      exact ⟨UInt64.le_refl _, fun hchanged => absurd rfl hchanged⟩

lemma accepted_step (s : PeerHistory) (e : PeerEvent) {node : NodeId} {conn : PeerConnection}
    (hconn : (s.step e).manager.peers.lookup node = some conn) :
    (s.step e).accepted node =
      if node = e.peerId ∧ s.manager.accepts e then s.accepted node ++ [e.helloTs]
      else s.accepted node := by
  have hthere : (s.manager.step e).peers.lookup node ≠ none := by
    rw [show (s.manager.step e).peers.lookup node = some conn from hconn]
    exact Option.some_ne_none conn
  exact if_neg hthere

lemma Latest.le_helloTs (hlatest : s.Latest)
    (hfresh : s.AnswerIsFresh e) (haccepts : s.manager.accepts e) {ts : UInt64}
    (hmem : ts ∈ s.accepted e.peerId) : ts ≤ e.helloTs := by
  rcases hold : s.manager.peers.lookup e.peerId with _ | old
  · rw [hlatest.forgotten _ hold] at hmem
    exact absurd hmem not_mem_nil
  have hle := hlatest.le _ old hold ts hmem
  rcases le_of_accepts hfresh haccepts hold with hlt | ⟨heq, -⟩
  · exact UInt64.le_trans hle (UInt64.le_of_lt hlt)
  · exact heq ▸ hle

lemma latest_step (s : PeerHistory) (e : PeerEvent) (hlatest : s.Latest)
    (hfresh : s.AnswerIsFresh e) : (s.step e).Latest := by
  constructor
  · intro node hnone
    exact if_pos hnone
  · intro node conn hconn
    rw [accepted_step s e hconn]
    rcases lookup_step hconn with ⟨rfl, haccepts, -, hts⟩ | ⟨hnot, hsame⟩
    · rw [if_pos ⟨rfl, haccepts⟩, hts]
      exact mem_append_right _ (mem_singleton.mpr rfl)
    · rw [if_neg fun h => by simp [hnot h.1] at h]
      exact hlatest.mem node conn hsame
  · intro node conn hconn ts hmem
    rw [accepted_step s e hconn] at hmem
    rcases lookup_step hconn with ⟨rfl, haccepts, -, hts⟩ | ⟨hnot, hsame⟩
    · rw [if_pos ⟨rfl, haccepts⟩] at hmem
      rw [hts]
      rcases mem_append.mp hmem with hbefore | hlast
      · exact hlatest.le_helloTs hfresh haccepts hbefore
      · exact UInt64.le_of_eq (mem_singleton.mp hlast)
    · rw [if_neg fun h => by simp [hnot h.1] at h] at hmem
      exact hlatest.le node conn hsame ts hmem

lemma latest_start (maxPeers : Nat) (relay : Relay) : (start maxPeers relay).Latest :=
  ⟨fun _ _ => rfl, fun _ _ h => (Option.some_ne_none _ h.symm).elim,
    fun _ _ h => (Option.some_ne_none _ h.symm).elim⟩

end PeerHistory

/-- **Replay protection of the peer table.** In every run of dialed and discovered peers, with
messages of any signed times, each step is protected from replays exactly if each answer that
`connect` gets from a peer in the table is fresh. Greetings need no condition: `register_peer` looks
at the time. -/
theorem hello_replay_protection_iff (maxPeers : Nat) (relay : Relay) (es : List PeerEvent) :
    Guarded PeerHistory.step PeerHistory.Protected (.start maxPeers relay) es ↔
      Guarded PeerHistory.step PeerHistory.AnswerIsFresh (.start maxPeers relay) es :=
  guarded_iff_guarded PeerHistory.latest_step PeerHistory.protected_iff
    (PeerHistory.latest_start maxPeers relay) es

def idleRelay : Relay := ⟨sampleOrigin, ∅, .empty, fun _ => none, ∅⟩

/-- A peer is discovered, then `connect` to another address completes with an answer that the peer
signed earlier. -/
def oldAnswer : List PeerEvent :=
  [.greeted sampleProvider (sampleAddr 1) 100 0 0, .connected sampleProvider (sampleAddr 2) 50 1]

/-- **`connect` does not look at the time.** The peer has the address that the old answer came from,
and the recorded time goes back from 100 to 50. -/
theorem connect_accepts_old_answer :
    (run PeerHistory.step (.start 8 idleRelay) (oldAnswer.take 1)).manager.peers.lookup
        sampleProvider = some ⟨sampleAddr 1, true, 100, 0⟩ ∧
      (run PeerHistory.step (.start 8 idleRelay) oldAnswer).manager.peers.lookup
        sampleProvider = some ⟨sampleAddr 2, false, 50, 1⟩ ∧
      ¬ Guarded PeerHistory.step PeerHistory.Protected (.start 8 idleRelay) oldAnswer := by
  refine ⟨AList.lookup_insert _, AList.lookup_insert _, ?_⟩
  intro hguarded
  have hle :=
    (hguarded.2.1 sampleProvider _ _ (AList.lookup_insert _) (AList.lookup_insert _)).1
  exact absurd hle (by decide)

end AxiomCore
