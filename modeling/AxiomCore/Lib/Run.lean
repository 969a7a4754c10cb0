import Mathlib

/-!
# Runs of a step function

A system is a total step function `step : σ → ε → σ`; a run is a list of events, taken in order. An
event that is not enabled leaves the state as it is, so every list of events is a run and "any
interleaving" is "any list".

- `Guarded G s es`: each event of the run meets the guard `G` in the state it is taken in.
- `run_invariant`, `run_invariant_of_guarded`: what every (guarded) step preserves holds after every
  (guarded) run; `run_induction`: the same for what is said of the state and of the events so far.
- `run_iff_guarded`: what a step keeps exactly if it meets the guard holds after exactly the guarded
  runs.
- `guarded_iff_guarded`: guards that agree where the invariant holds allow the same runs.
- `getElem?_set_cases`, `getElem?_concat_cases`: a state that has a list of tasks, of which one is
  written or a new one is added.
- `concat_eq_append_cons`, `exists_pair_of_countP`: a state that has a log, to which one entry is
  added at a time.
-/

namespace Lib

open List

section Run

variable {σ ε : Type*} (step : σ → ε → σ)

/-- The state after a list of events. -/
def run (s : σ) (es : List ε) : σ := es.foldl step s

@[simp] lemma run_nil (s : σ) : run step s [] = s := rfl

@[simp] lemma run_cons (s : σ) (e : ε) (es : List ε) :
    run step s (e :: es) = run step (step s e) es := rfl

lemma run_append (s : σ) (es fs : List ε) : run step s (es ++ fs) = run step (run step s es) fs :=
  foldl_append

/-- Every event is taken in a state where the guard allows it. -/
def Guarded (G : σ → ε → Prop) : σ → List ε → Prop
  | _, [] => True
  | s, e :: es => G s e ∧ Guarded G (step s e) es

/-- A guard that can be evaluated can be evaluated along a run. -/
instance decidableGuarded (G : σ → ε → Prop) [∀ s e, Decidable (G s e)] :
    (s : σ) → (es : List ε) → Decidable (Guarded step G s es)
  | _, [] => .isTrue trivial
  | s, e :: es =>
    have := decidableGuarded G (step s e) es
    inferInstanceAs (Decidable (G s e ∧ Guarded step G (step s e) es))

variable {step} {G : σ → ε → Prop} {I : σ → Prop}

variable {s : σ} {es : List ε}

lemma guarded_append {fs : List ε} :
    Guarded step G s (es ++ fs) ↔ Guarded step G s es ∧ Guarded step G (run step s es) fs := by
  induction es generalizing s with
  | nil => simp [Guarded]
  | cons e es ih => simp [Guarded, ih, and_assoc]

lemma guarded_of_forall (h : ∀ e ∈ es, ∀ s, G s e) :
    Guarded step G s es := by
  induction es generalizing s with
  | nil => exact trivial
  | cons e es ih =>
    exact ⟨h e mem_cons_self s, ih fun e' he' => h e' (mem_cons_of_mem e he')⟩

lemma run_invariant (hstep : ∀ s e, I s → I (step s e)) (hs : I s) (es : List ε) :
    I (run step s es) := by
  induction es generalizing s with
  | nil => exact hs
  | cons e es ih => exact ih (hstep s e hs)

lemma run_induction {P : List ε → σ → Prop} (hnil : P [] s)
    (hstep : ∀ es e, P es (run step s es) → P (es ++ [e]) (step (run step s es) e))
    (es : List ε) : P es (run step s es) := by
  induction es using List.reverseRecOn with
  | nil => exact hnil
  | append_singleton es e ih =>
    rw [run_append]
    exact hstep es e ih

lemma run_invariant_of_guarded (hstep : ∀ s e, I s → G s e → I (step s e))
    (hs : I s) (hg : Guarded step G s es) : I (run step s es) := by
  induction es generalizing s with
  | nil => exact hs
  | cons e es ih => exact ih (hstep s e hs hg.1) hg.2

lemma run_iff_guarded {P : σ → Prop} (hI : ∀ s e, I s → I (step s e))
    (hP : ∀ s e, I s → (P (step s e) ↔ P s ∧ G s e)) (hs : I s) (hPs : P s)
    (es : List ε) : P (run step s es) ↔ Guarded step G s es := by
  induction es using List.reverseRecOn with
  | nil => simp [Guarded, hPs]
  | append_singleton es e ih =>
    have hlast := hP (run step s es) e (run_invariant hI hs es)
    rw [guarded_append, run_append]
    simpa [Guarded, ih] using hlast

lemma guarded_iff_guarded {H : σ → ε → Prop} (hI : ∀ s e, I s → G s e → I (step s e))
    (hGH : ∀ s e, I s → (H s e ↔ G s e)) (hs : I s) (es : List ε) :
    Guarded step H s es ↔ Guarded step G s es := by
  induction es generalizing s with
  | nil => exact Iff.rfl
  | cons e es ih =>
    constructor
    · rintro ⟨hhead, htail⟩
      have hG := (hGH s e hs).mp hhead
      exact ⟨hG, (ih (hI s e hs hG)).mp htail⟩
    · rintro ⟨hG, htail⟩
      exact ⟨(hGH s e hs).mpr hG, (ih (hI s e hs hG)).mpr htail⟩

end Run

section Family

variable {ι σ ε : Type*} [DecidableEq ι] (step : σ → ε → σ)

/-- One component of a family of systems takes a step. -/
def stepAt (s : ι → σ) (e : ι × ε) : ι → σ := Function.update s e.1 (step (s e.1) e.2)

/-- The events of one component. -/
def eventsAt (i : ι) (es : List (ι × ε)) : List ε := (es.filter (·.1 = i)).map (·.2)

lemma mem_of_mem_eventsAt {i : ι} {es : List (ι × ε)} {e : ε} (h : e ∈ eventsAt i es) :
    (i, e) ∈ es := by
  obtain ⟨⟨j, e'⟩, hmem, rfl⟩ := mem_map.mp h
  obtain ⟨hes, hj⟩ := mem_filter.mp hmem
  obtain rfl : j = i := of_decide_eq_true hj
  exact hes

lemma run_stepAt (s : ι → σ) (es : List (ι × ε)) (i : ι) :
    run (stepAt step) s es i = run step (s i) (eventsAt i es) := by
  induction es generalizing s with
  | nil => rfl
  | cons e es ih =>
    rw [run_cons, ih]
    by_cases hi : e.1 = i
    · subst hi
      simp [stepAt, eventsAt]
    · simp [stepAt, eventsAt, hi, Ne.symm hi]

end Family

section Tasks

variable {α : Type*} {tasks : List α} {i j : Nat} {new task : α}

lemma getElem?_set_cases (h : (tasks.set i new)[j]? = some task) :
    (j = i ∧ task = new) ∨ (j ≠ i ∧ tasks[j]? = some task) := by
  rw [getElem?_set] at h
  split_ifs at h with hij hlength
  · exact .inl ⟨hij.symm, (Option.some.inj h).symm⟩
  · exact .inr ⟨Ne.symm hij, h⟩

lemma getElem?_concat_cases (h : (tasks ++ [new])[j]? = some task) :
    (j = tasks.length ∧ task = new) ∨ tasks[j]? = some task := by
  rcases lt_or_ge j tasks.length with hlt | hge
  · rw [getElem?_append_left hlt] at h
    exact .inr h
  rw [getElem?_append_right hge] at h
  obtain ⟨hlt, htask⟩ := List.getElem?_eq_some_iff.mp h
  have hlast : j = tasks.length := by
    rw [length_singleton] at hlt
    omega
  exact .inl ⟨hlast, by simpa using htask.symm⟩

lemma getElem?_concat_of_some (h : tasks[j]? = some task) : (tasks ++ [new])[j]? = some task :=
  (getElem?_append_left (List.getElem?_eq_some_iff.mp h).1).trans h

lemma getElem?_set_of_some (h : tasks[i]? = some task) : (tasks.set i new)[i]? = some new :=
  getElem?_set_self (List.getElem?_eq_some_iff.mp h).1

lemma countP_set_add (h : tasks[i]? = some task) (new : α) (p : α → Bool) :
    (tasks.set i new).countP p + (p task).toNat = tasks.countP p + (p new).toNat := by
  obtain ⟨hlt, rfl⟩ := List.getElem?_eq_some_iff.mp h
  have hite : ∀ b : Bool, (if b = true then 1 else 0) = b.toNat := fun b => by cases b <;> rfl
  have hle : (p tasks[i]).toNat ≤ tasks.countP p := by
    rcases htask : p tasks[i] with _ | _
    · exact Nat.zero_le _
    · exact countP_pos_iff.mpr ⟨_, getElem_mem hlt, htask⟩
  rw [countP_set hlt, hite, hite]
  omega

lemma sum_map_set_add {M : Type*} [AddCommMonoid M] (h : tasks[i]? = some task) (new : α)
    (f : α → M) : ((tasks.set i new).map f).sum + f task = (tasks.map f).sum + f new := by
  induction tasks generalizing i with
  | nil => cases h
  | cons first tasks ih =>
    cases i with
    | zero =>
      cases h
      simp only [set_cons_zero, map_cons, sum_cons]
      abel
    | succ i =>
      have hrest := ih h
      rw [set_cons_succ, map_cons, sum_cons, add_assoc, hrest, map_cons,
        sum_cons, add_assoc]

end Tasks

section Log

variable {α : Type*} {log before after : List α} {new entry : α}

lemma concat_eq_append_cons (h : log ++ [new] = before ++ entry :: after) :
    (log = before ∧ new = entry ∧ after = []) ∨
      ∃ earlier, after = earlier ++ [new] ∧ log = before ++ entry :: earlier := by
  rcases eq_nil_or_concat after with rfl | ⟨earlier, last, rfl⟩
  · obtain ⟨hlog, hnew⟩ := append_inj' h rfl
    exact .inl ⟨hlog, singleton_inj.mp hnew, rfl⟩
  have hconcat : log ++ [new] = (before ++ entry :: earlier) ++ [last] := by simpa using h
  obtain ⟨hlog, hnew⟩ := append_inj' hconcat rfl
  exact .inr ⟨earlier, by rw [singleton_inj.mp hnew, concat_eq_append], hlog⟩

lemma exists_pair_of_countP {p : α → Bool} (h : 2 ≤ log.countP p) :
    ∃ before first between second after,
      log = before ++ first :: (between ++ second :: after) ∧ p first ∧ p second := by
  induction log with
  | nil => cases h
  | cons a log ih =>
    by_cases ha : p a
    · rw [countP_cons_of_pos ha] at h
      obtain ⟨b, hmem, hb⟩ := countP_pos_iff.mp (Nat.le_of_succ_le_succ h)
      obtain ⟨between, after, rfl⟩ := append_of_mem hmem
      exact ⟨[], a, between, b, after, rfl, ha, hb⟩
    rw [countP_cons_of_neg ha] at h
    obtain ⟨before, first, between, second, after, rfl, hfirst, hsecond⟩ := ih h
    exact ⟨a :: before, first, between, second, after, rfl, hfirst, hsecond⟩

end Log

end Lib
