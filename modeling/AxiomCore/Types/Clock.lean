import AxiomCore.Lib.Bytes

/-!
# Hybrid logical clocks

A clock value is a wall-clock second and a counter within it. `happens_before` is the lexicographic
order, which is the order of one number (`HybridClock.stamp`), so clock values are linearly ordered
and `omega` decides what follows from comparisons.

On the wire a clock value has 7 bytes: the low 40 bits of the second, and the counter.
`fromBytes_toBytes` is the round trip for seconds that fit.

Source: `axiom-types/src/clock.rs`.
-/

namespace AxiomCore

open Lib List

/-! ## Clock values -/

structure HybridClock where
  /-- Unix timestamp in seconds. -/
  physical : UInt64
  /-- Counter within the second. -/
  logical : UInt16
  deriving DecidableEq

def satSucc (n : UInt16) : UInt16 := if n = 0xFFFF then n else n + 1

namespace HybridClock

def zero : HybridClock := ⟨0, 0⟩

/-- `HybridClock::now`, from the wall clock's reading in unix seconds. -/
def now (secs : Nat) : HybridClock := ⟨UInt64.ofNat secs, 0⟩

def tick (c : HybridClock) : HybridClock := { c with logical := satSucc c.logical }

def update (c received : HybridClock) : HybridClock :=
  if c.physical < received.physical then ⟨received.physical, satSucc received.logical⟩
  else if c.physical = received.physical then
    { c with logical := satSucc (max c.logical received.logical) }
  else { c with logical := satSucc c.logical }

def happensBefore (c other : HybridClock) : Bool :=
  c.physical < other.physical || (c.physical = other.physical && c.logical < other.logical)

/-- `HybridClock::to_bytes`: 40 bits of the second, 16 bits of the counter. -/
def toBytes (c : HybridClock) : List UInt8 :=
  beBytes 5 c.physical.toNat ++ beBytes 2 c.logical.toNat

def fromBytes (bs : List UInt8) : HybridClock :=
  ⟨UInt64.ofNat (beNat (bs.take 5)), UInt16.ofNat (beNat ((bs.drop 5).take 2))⟩

/-! ## The order -/

/-- Second and counter as one number. -/
def stamp (c : HybridClock) : Nat := c.physical.toNat * 2 ^ 16 + c.logical.toNat

lemma stamp_injective : Function.Injective stamp := by
  intro c d h
  have hc := c.logical.toNat_lt
  have hd := d.logical.toNat_lt
  unfold stamp at h
  have hphysical : c.physical = d.physical := UInt64.toNat_inj.mp (by omega)
  have hlogical : c.logical = d.logical := UInt16.toNat_inj.mp (by omega)
  cases c
  cases d
  simp_all

instance : LinearOrder HybridClock := LinearOrder.lift' stamp stamp_injective

variable {c d : HybridClock} {bs : List UInt8}

lemma lt_iff_stamp_lt : c < d ↔ c.stamp < d.stamp := Iff.rfl

lemma le_iff_stamp_le : c ≤ d ↔ c.stamp ≤ d.stamp := Iff.rfl

lemma happensBefore_iff_lt : c.happensBefore d ↔ c < d := by
  have hc := c.logical.toNat_lt
  have hd := d.logical.toNat_lt
  rw [lt_iff_stamp_lt, stamp, stamp]
  simp only [happensBefore, Bool.or_eq_true, Bool.and_eq_true, decide_eq_true_eq,
    UInt64.lt_iff_toNat_lt, UInt16.lt_iff_toNat_lt, ← UInt64.toNat_inj]
  omega

lemma physical_le_of_le (h : c ≤ d) :
    c.physical.toNat ≤ d.physical.toNat := by
  have hc := c.logical.toNat_lt
  have hd := d.logical.toNat_lt
  rw [le_iff_stamp_le, stamp, stamp] at h
  omega

/-! ## The wire format -/

@[simp] lemma length_toBytes (c : HybridClock) : c.toBytes.length = 7 := by simp [toBytes]

lemma fromBytes_toBytes (h : c.physical.toNat < 2 ^ 40) (rest : List UInt8) :
    fromBytes (c.toBytes ++ rest) = c := by
  have hlogical := c.logical.toNat_lt
  have htake : (c.toBytes ++ rest).take 5 = beBytes 5 c.physical.toNat := by
    rw [toBytes, append_assoc, take_left' (by simp)]
  have hdrop : ((c.toBytes ++ rest).drop 5).take 2 = beBytes 2 c.logical.toNat := by
    rw [toBytes, append_assoc, drop_left' (by simp), take_left' (by simp)]
  rw [fromBytes, htake, hdrop, beNat_beBytes, beNat_beBytes, Nat.mod_eq_of_lt (by omega),
    Nat.mod_eq_of_lt (by omega), UInt64.ofNat_toNat, UInt16.ofNat_toNat]

lemma physical_fromBytes_lt : (fromBytes bs).physical.toNat < 2 ^ 40 := by
  have hlt := beNat_lt (bs.take 5)
  have hle : 256 ^ (bs.take 5).length ≤ 256 ^ 5 :=
    Nat.pow_le_pow_right (by norm_num) (length_take_le ..)
  simp only [fromBytes, UInt64.toNat_ofNat']
  omega

lemma toBytes_fromBytes (h : bs.length = 7) : (fromBytes bs).toBytes = bs := by
  have hsecs : (bs.take 5).length = 5 := by simp [h]
  have hcount : ((bs.drop 5).take 2).length = 2 := by simp [h]
  have hsecsLt := beNat_lt (bs.take 5)
  have hcountLt := beNat_lt ((bs.drop 5).take 2)
  rw [hsecs] at hsecsLt
  rw [hcount] at hcountLt
  have hphysical : beBytes 5 (fromBytes bs).physical.toNat = bs.take 5 := by
    rw [fromBytes, UInt64.toNat_ofNat', Nat.mod_eq_of_lt (by omega)]
    simpa only [hsecs] using beBytes_beNat (bs.take 5)
  have hlogical : beBytes 2 (fromBytes bs).logical.toNat = (bs.drop 5).take 2 := by
    rw [fromBytes, UInt16.toNat_ofNat', Nat.mod_eq_of_lt (by omega)]
    simpa only [hcount] using beBytes_beNat ((bs.drop 5).take 2)
  have htail : (bs.drop 5).take 2 = bs.drop 5 := take_of_length_le (by simp [h])
  rw [toBytes, hphysical, hlogical, htail, take_append_drop]

lemma fromBytes_eq_iff (h : bs.length = 7) :
    fromBytes bs = c ↔ c.physical.toNat < 2 ^ 40 ∧ c.toBytes = bs := by
  constructor
  · rintro rfl
    exact ⟨physical_fromBytes_lt, toBytes_fromBytes h⟩
  · rintro ⟨hfits, rfl⟩
    simpa using fromBytes_toBytes hfits []

end HybridClock

/-! ## The clock of a node -/

/-- Source: `axiom-clock/src/lib.rs`, `ClockManager`. -/
structure ClockManager where
  clock : HybridClock

namespace ClockManager

/-- `ClockManager::new`, from the wall clock's reading. Source: `axiom-clock/src/lib.rs`,
`ClockManager::new`. -/
def new (secs : Nat) : ClockManager := ⟨.now secs⟩

/-- Source: `axiom-clock/src/lib.rs`, `ClockManager::tick`. -/
def tick (m : ClockManager) : HybridClock × ClockManager := (m.clock.tick, ⟨m.clock.tick⟩)

/-- Source: `axiom-clock/src/lib.rs`, `ClockManager::update`. -/
def update (m : ClockManager) (received : HybridClock) : ClockManager := ⟨m.clock.update received⟩

/-- `ClockManager::sync_physical`, from the wall clock's reading. Source: `axiom-clock/src/lib.rs`,
`ClockManager::sync_physical`. -/
def syncPhysical (m : ClockManager) (secs : Nat) : ClockManager :=
  if UInt64.ofNat secs > m.clock.physical then ⟨⟨UInt64.ofNat secs, 0⟩⟩ else m

end ClockManager

end AxiomCore
