import Mathlib.Logic.Function.Basic
import Mathlib.Data.Set.Basic

/-!
# Timeout sources

A main context keeps timeout sources under numbers other than 0. Each belongs to an owner, which
records the number of its source, or 0. `Registered` says that the two agree: every source is
recorded by its owner, and every recorded number is that of a source of the owner.

* `Registered.add`, `Registered.remove`: adding and removing sources together with the records.
-/

namespace Glib

/-- The sources and the numbers recorded by their owners agree. -/
def Registered {τ : Type} (sources : Nat → Option τ) (armed : τ → Nat) : Prop :=
  ∀ s t, sources s = some t ↔ s ≠ 0 ∧ armed t = s

namespace Registered

variable {τ : Type} {sources sources' : Nat → Option τ} {armed armed' : τ → Nat} {s : Nat} {t : τ}

lemma recorded (R : Registered sources armed) (e : sources s = some t) : armed t = s :=
  ((R s t).mp e).2

lemma source (R : Registered sources armed) (ne : armed t ≠ 0) : sources (armed t) = some t :=
  (R _ _).mpr ⟨ne, rfl⟩

/-- No source has the number 0. -/
lemma zero (R : Registered sources armed) : sources 0 = none := by
  cases e : sources 0 with
  | none => rfl
  | some t => exact absurd rfl ((R 0 t).mp e).1

/-- An owner without a source gets a new one. -/
lemma add [DecidableEq τ] (R : Registered sources armed) (new : sources s = none) (ne : s ≠ 0)
    (idle : armed t = 0) (same : ∀ u ≠ t, armed' u = armed u) (set : armed' t = s) :
    Registered (Function.update sources s (some t)) armed' := by
  intro s' t'
  by_cases es : s' = s
  · subst es
    rw [Function.update_self]
    constructor
    · intro e
      cases e
      exact ⟨ne, set⟩
    · rintro ⟨_, e⟩
      by_cases et : t' = t
      · rw [et]
      · -- another owner would have recorded the new number before
        rw [same t' et] at e
        rw [(R s' t').mpr ⟨ne, e⟩] at new
        cases new
  · rw [Function.update_of_ne es, R s' t']
    by_cases et : t' = t
    · rw [et, idle, set]
      exact ⟨fun h => absurd h.2.symm h.1, fun h => absurd h.2.symm es⟩
    · rw [same t' et]

/-- The sources of some owners are removed, and their records cleared. -/
lemma remove (R : Registered sources armed) (owners : Set τ)
    (gone : ∀ s, (∃ t ∈ owners, armed t = s ∧ s ≠ 0) → sources' s = none)
    (kept : ∀ s, (∀ t ∈ owners, armed t = s → s = 0) → sources' s = sources s)
    (clear : ∀ t ∈ owners, armed' t = 0) (same : ∀ t ∉ owners, armed' t = armed t) :
    Registered sources' armed' := by
  intro s t
  by_cases h : ∃ u ∈ owners, armed u = s ∧ s ≠ 0
  · obtain ⟨u, mem, eu, ne⟩ := h
    rw [gone s ⟨u, mem, eu, ne⟩]
    constructor
    · nofun
    · rintro ⟨_, e⟩
      by_cases et : t ∈ owners
      · exact absurd (e.symm.trans (clear t et)) ne
      · -- two owners of one number are the same
        rw [same t et] at e
        have one := ((R s t).mpr ⟨ne, e⟩).symm.trans ((R s u).mpr ⟨ne, eu⟩)
        exact absurd (Option.some.inj one ▸ mem) et
  · have only : ∀ u ∈ owners, armed u = s → s = 0 := by
      intro u mem eu
      by_contra ne
      exact h ⟨u, mem, eu, ne⟩
    rw [kept s only, R s t]
    by_cases et : t ∈ owners
    · rw [clear t et]
      exact ⟨fun e => absurd (only t et e.2) e.1, fun e => absurd e.2.symm e.1⟩
    · rw [same t et]

end Registered

end Glib
