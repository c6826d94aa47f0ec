import Mathlib.Tactic.Common

/-!
# `cdc_toggle_sync`: an event encoded as a toggle, recreated as a pulse

A destination edge samples the source toggle as it stands at that edge.
-/

namespace LaserTx.Rtl.CdcToggleSync

structure State where
  syncFf1 : Bool
  syncFf2 : Bool
  dstToggle : Bool
  dstPulse : Bool
deriving DecidableEq

/-- The registers after an edge with `dst_rst` high. -/
def reset : State :=
  { syncFf1 := false, syncFf2 := false, dstToggle := false, dstPulse := false }

/-- The registers after one `dst_clk` edge. -/
def step (s : State) (dstRst srcToggle : Bool) : State :=
  if dstRst then reset
  else
    { syncFf1 := srcToggle
      syncFf2 := s.syncFf1
      dstPulse := s.syncFf2 ^^ s.dstToggle
      dstToggle := s.syncFf2 }

end LaserTx.Rtl.CdcToggleSync
