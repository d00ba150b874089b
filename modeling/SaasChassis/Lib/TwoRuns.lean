/-
  Two runs on inputs that differ in some keys only.

  `AgreeOff S f g`: the maps differ at most on the keys in `S`. An observer that sees some keys
  as they came in and others as fixed values learns nothing about `S` exactly when it sees no
  key of `S` as it came in (`blind_iff`).
-/
import Mathlib.Data.Set.Basic
import Mathlib.Logic.Function.Basic
import Mathlib.Logic.Nontrivial.Defs

namespace SaasChassis.Lib

variable {κ ν ω : Type}

/-- The maps differ at most on the keys in `S`. -/
def AgreeOff (S : Set κ) (f g : κ → ν) : Prop := ∀ k, k ∉ S → f k = g k

namespace AgreeOff

variable {S : Set κ} {f g : κ → ν}

theorem refl (S : Set κ) (f : κ → ν) : AgreeOff S f f := fun _ _ => rfl

/-- A write to one of the maps stays inside the difference. -/
theorem update [DecidableEq κ] {k : κ} (hk : k ∈ S) (f : κ → ν) (v : ν) :
    AgreeOff S f (Function.update f k v) := by
  intro j hj
  have hjk : j ≠ k := by
    intro he
    exact hj (he ▸ hk)
  rw [Function.update_of_ne hjk]

end AgreeOff

/-- The observer `obs` of a run on `f` cannot tell it from a run that differs on `S` only. -/
def Blind (S : Set κ) (obs : (κ → ν) → κ → ω) (f : κ → ν) : Prop :=
  ∀ g, AgreeOff S f g → ∀ k ∈ S, obs g k = obs f k

/-- An observer that is shown the keys in `P` as received, and `c` elsewhere, is blind exactly
    when `P` leaves `S` out. -/
theorem blind_iff [Nontrivial ν] {S P : Set κ} {obs : (κ → ν) → κ → ω} {f : κ → ν}
    {emit : ν → ω} (hemit : Function.Injective emit) {c : κ → ω}
    (hshown : ∀ g, AgreeOff S f g → ∀ k ∈ S, k ∈ P → obs g k = emit (g k))
    (hfixed : ∀ g, AgreeOff S f g → ∀ k ∈ S, k ∉ P → obs g k = c k) :
    Blind S obs f ↔ ∀ k ∈ S, k ∉ P := by
  classical
  constructor
  · intro hb k hk hp
    obtain ⟨v, hv⟩ := exists_ne (f k)
    have hg := AgreeOff.update hk f v
    have hsame := hb _ hg k hk
    rw [hshown _ hg k hk hp, hshown f (.refl S f) k hk hp, Function.update_self] at hsame
    exact hv (hemit hsame)
  · intro h g hg k hk
    rw [hfixed g hg k hk (h k hk), hfixed f (.refl S f) k hk (h k hk)]

end SaasChassis.Lib
