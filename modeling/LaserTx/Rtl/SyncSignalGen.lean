import LaserTx.Clocked.CyclicWindow

/-!
# `sync_signal_gen`: the optical gates and the acquisition trigger

Combinational logic on the registered word: no timing state of its own.
-/

namespace LaserTx.Rtl.SyncSignalGen

/-- The output pins. -/
structure Pins where
  eomOut : Bool
  soaGateOut : Bool
  acqTrigOut : Bool
  acqGateOut : Bool

/-- The `always @*` block. -/
def pins (rst : Bool) (validMask : BitVec 64) (phaseActive phaseStartPulse : Bool) : Pins :=
  if rst then
    { eomOut := false, soaGateOut := false, acqTrigOut := false, acqGateOut := false }
  else
    { eomOut := validMask != 0#64
      soaGateOut := phaseActive
      acqTrigOut := phaseStartPulse
      acqGateOut := phaseActive }

/-- With a data bit or a phase start only inside a phase, a high modulator or trigger
pin comes with both gates high. -/
theorem gates_of_pin {rst : Bool} {validMask : BitVec 64} {phaseActive phaseStartPulse : Bool}
    (inside : validMask ≠ 0#64 ∨ phaseStartPulse = true → phaseActive = true)
    (high : (pins rst validMask phaseActive phaseStartPulse).eomOut = true ∨
      (pins rst validMask phaseActive phaseStartPulse).acqTrigOut = true) :
    (pins rst validMask phaseActive phaseStartPulse).soaGateOut = true ∧
      (pins rst validMask phaseActive phaseStartPulse).acqGateOut = true := by
  cases rst with
  | true => exact absurd high (by simp [pins])
  | false =>
      have active : phaseActive = true := by
        apply inside
        cases high with
        | inl data => exact Or.inl (bne_iff_ne.mp data)
        | inr trigger => exact Or.inr trigger
      exact ⟨active, active⟩

end LaserTx.Rtl.SyncSignalGen
