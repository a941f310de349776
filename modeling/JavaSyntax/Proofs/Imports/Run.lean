import JavaSyntax.ImportTable

/-!
# Runs of an import table

A table changes by two calls: the name of a class that the file declares is reserved, and a
reference is registered. A run is a sequence of such calls in any order. `written` lists the
references of a run with the names that their own calls returned, and `claimants` the references
whose own calls gave a simple name its meaning. All results about runs rest on
`meaning?_run_of_some`: no call takes a meaning back.
-/

set_option autoImplicit false

namespace JavaSyntax

/-- A call that changes an import table. -/
inductive ImportCall where
  /-- Claims the simple name of a class that the file declares. -/
  | reserve (package name : String)
  /-- Enters a reference and asks how it is written. -/
  | register (r : Reference)

namespace ImportTable

/-- The table after one call. -/
def step (t : ImportTable) : ImportCall → ImportTable
  | .reserve package name => t.reserve package name
  | .register r => (t.register r).2

/-- The table after calls in order. -/
def run (t : ImportTable) (calls : List ImportCall) : ImportTable := calls.foldl step t

/-- The reference that a call registers, with the name that the call returns. -/
def writtenBy? (t : ImportTable) : ImportCall → Option (Reference × String)
  | .reserve _ _ => none
  | .register r => some (r, (t.register r).1)

/-- The references that a run registers, each with the name that its own call returned. -/
def written (t : ImportTable) : List ImportCall → List (Reference × String)
  | [] => []
  | call :: calls => (t.writtenBy? call).toList ++ (t.step call).written calls

/-- Whether registering a reference claims its simple name. -/
def isClaimedBy (t : ImportTable) (r : Reference) : Bool :=
  !r.isWildcard && (t.meaning? r.binding.name).isNone

/-- The reference that claims its simple name by a call. -/
def claimant? (t : ImportTable) : ImportCall → Option Reference
  | .reserve _ _ => none
  | .register r => if t.isClaimedBy r then some r else none

/-- The references that claim their simple names in a run, in order. -/
def claimants (t : ImportTable) : List ImportCall → List Reference
  | [] => []
  | call :: calls => (t.claimant? call).toList ++ (t.step call).claimants calls

/-! ## Steps and runs -/

@[simp] theorem run_nil (t : ImportTable) : t.run [] = t := rfl

@[simp] theorem run_cons (t : ImportTable) (call : ImportCall) (calls : List ImportCall) :
    t.run (call :: calls) = (t.step call).run calls := rfl

theorem run_append (t : ImportTable) (earlier later : List ImportCall) :
    t.run (earlier ++ later) = (t.run earlier).run later := by
  simp [run]

theorem written_append (t : ImportTable) (earlier later : List ImportCall) :
    t.written (earlier ++ later) = t.written earlier ++ (t.run earlier).written later := by
  induction earlier generalizing t with
  | nil => rfl
  | cons call earlier ih => simp [written, ih]

theorem claimants_append (t : ImportTable) (earlier later : List ImportCall) :
    t.claimants (earlier ++ later) = t.claimants earlier ++ (t.run earlier).claimants later := by
  induction earlier generalizing t with
  | nil => rfl
  | cons call earlier ih => simp [claimants, ih]

/-- The names in a run stand where the run is split before their own calls. -/
theorem mem_written_iff {t : ImportTable} {calls : List ImportCall} {r : Reference} {n : String} :
    (r, n) ∈ t.written calls ↔
      ∃ before after, calls = before ++ .register r :: after ∧
        n = ((t.run before).register r).1 := by
  constructor
  · intro h
    induction calls generalizing t with
    | nil => simp [written] at h
    | cons call calls ih =>
      rw [written, List.mem_append] at h
      rcases h with h | h
      · cases call with
        | reserve package name => simp [writtenBy?] at h
        | register s =>
          simp only [writtenBy?, Option.toList_some, List.mem_singleton, Prod.mk.injEq] at h
          obtain ⟨rfl, rfl⟩ := h
          exact ⟨[], calls, rfl, rfl⟩
      · obtain ⟨before, after, rfl, hn⟩ := ih h
        exact ⟨call :: before, after, rfl, hn⟩
  · rintro ⟨before, after, rfl, rfl⟩
    rw [written_append]
    simp [written, writtenBy?]

/-! ## What a step changes -/

theorem package_enter (t : ImportTable) (r : Reference) : (t.enter r).package = t.package := by
  have hclaim : ∀ (u : ImportTable) (b : Binding), (u.claim b).package = u.package := by
    intro u b
    unfold claim
    split <;> rfl
  have hrecord : (t.record r).package = t.package := by
    unfold record
    split <;> rfl
  unfold enter
  split
  · rfl
  · split
    · exact hrecord
    · exact (hclaim _ _).trans hrecord

/-- The package of the file stays. -/
theorem package_step (t : ImportTable) (call : ImportCall) : (t.step call).package = t.package := by
  cases call with
  | reserve package name =>
    simp only [step, reserve, claim]
    split <;> rfl
  | register r => exact package_enter t r

/-- A simple name that has a meaning keeps it in every step. -/
theorem meaning?_step_of_some {t : ImportTable} {call : ImportCall} {name meaning : String}
    (h : t.meaning? name = some meaning) : (t.step call).meaning? name = some meaning := by
  cases call with
  | reserve package name => exact meaning?_claim_of_some h
  | register r => exact meaning?_enter_of_some h

/-- A simple name that has a meaning keeps it in every run. -/
theorem meaning?_run_of_some {t : ImportTable} {name meaning : String}
    (h : t.meaning? name = some meaning) (calls : List ImportCall) :
    (t.run calls).meaning? name = some meaning := by
  induction calls generalizing t with
  | nil => exact h
  | cons call calls ih => exact ih (meaning?_step_of_some h)

/-- A simple name without a meaning had none before. -/
theorem meaning?_eq_none_of_run {t : ImportTable} {calls : List ImportCall} {name : String}
    (h : (t.run calls).meaning? name = none) : t.meaning? name = none := by
  cases hm : t.meaning? name with
  | none => rfl
  | some meaning =>
    rw [meaning?_run_of_some hm] at h
    exact absurd h (by simp)

theorem meaning?_eq_none_of_step {t : ImportTable} {call : ImportCall} {name : String}
    (h : (t.step call).meaning? name = none) : t.meaning? name = none := by
  rw [← run_nil (t.step call), ← run_cons] at h
  exact meaning?_eq_none_of_run h

end ImportTable

end JavaSyntax
