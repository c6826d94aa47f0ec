import LaserTx.Delivery.Warrant

/-!
# Dark behind a `DISABLE`

Three `txusrclk2` edges behind the last edge that has sampled the enable, nothing leaves the
engine and all four pins are low, whatever else `tx_rst`, the clocks and the clients do.
-/

namespace LaserTx.Delivery

open Clocked Rtl
open Firmware (Datagram LaserGpio Source Warranted controlOutput decode enablingOf
  lastRequested requested served served_warranted_since)
open Transmission (Silent)

namespace ChipRun

variable {run : ChipRun} {stopped n : Nat}

/-- `soa_gate_out` and its neighbours, with the reset of `sync_signal_gen` as it stands. -/
def pins (run : ChipRun) (rst : Bool) (n : Nat) : SyncSignalGen.Pins :=
  SyncSignalGen.pins rst (run.engine n).validMask (run.engine n).phaseActive
    (run.engine n).phaseStartPulse

/-- No word and no pin. -/
structure Dark (run : ChipRun) (n : Nat) : Prop where
  silent : Silent (run.engine n)
  low : ∀ rst, run.pins rst n =
    { eomOut := false, soaGateOut := false, acqTrigOut := false, acqGateOut := false }

theorem dark_of_silent (silent : Silent (run.engine n)) : run.Dark n := by
  refine ⟨silent, fun rst => ?_⟩
  unfold pins
  rw [silent.validMask, silent.phaseActive, silent.phaseStartPulse]
  cases rst with
  | true => rfl
  | false => rfl

/-- Silent from the third edge on, once no edge samples the enable. -/
theorem dark_of_low
    (low : ∀ m, stopped ≤ m → m < n → run.enables m = false)
    (behind : time run.txClk stopped + 3 ≤ time run.txClk n) : Silent (run.engine n) := by
  induction n with
  | zero => exact absurd behind (Nat.not_succ_le_zero _)
  | succ n ih =>
      have earlier := fun m from_ before => low m from_ (Nat.lt_succ_of_lt before)
      rcases @axiClk_or_txClk run n with axi | tx
      · have same : run.engine (n + 1) = run.engine n := by
          unfold engine
          rw [(core_axi axi).2.1]
        rw [time_idle (txClk_false axi)] at behind
        rw [same]
        exact ih earlier behind
      · by_contra lit
        obtain ⟨_, _, _, _, _, _, _, start, light⟩ := attributed_of_lit tx lit
        obtain ⟨edge, before, clocked, counted, high⟩ :=
          light.enabled n (Nat.le_of_lt light.order) (Nat.le_refl n) tx
        rw [time_tick tx] at behind
        -- an edge so late is not one before the stop
        have late : stopped ≤ edge := by
          by_contra early
          have passed := time_after clocked (Nat.lt_of_not_le early)
          omega
        rw [earlier edge late before] at high
        exact Bool.false_ne_true high

end ChipRun

/-! ## The server -/

/-- The enable bit stays low behind a `DISABLE` while nobody asks for an `ENABLE`. -/
theorem ChipRun.enable_low {run : ChipRun} {respond : List Firmware.Event → Source → BitVec 32}
    {gpio : LaserGpio} {earlier idle : List Datagram} {stopped m n : Nat}
    (disabled : (lastRequested enablingOf earlier).getD false = false)
    (unasked : ∀ datagram ∈ idle, requested datagram.tokens ≠ .call (.setEnable true))
    (begun : (served run.base respond gpio earlier).1 <+: run.events stopped)
    (serving : run.events n <+: (served run.base respond gpio (earlier ++ idle)).1)
    (from_ : stopped ≤ m) (before : m < n) : (run.word m).getLsbD 9 = false := by
  have low := (@Firmware.served_enable run.base respond gpio earlier).trans disabled
  have holds : Warranted (· ≠ .call (.setEnable true))
      (decode (served run.base respond gpio earlier).2.controlShadow) :=
    { selection := Or.inr nofun
      applied := fun _ => nofun
      enabled := fun high => by
        rw [low] at high
        exact nomatch high
      requestedRate := fun _ => ⟨0#32, nofun⟩ }
  obtain ⟨more, extended, warrants⟩ := @served_warranted_since run.base respond gpio _ earlier
    idle unasked holds
  obtain ⟨part, split, inside⟩ := Session.between extended
    (begun.trans (events_extend (Nat.le_succ_of_le from_)))
    ((events_extend before).trans serving)
  have fields := Firmware.warranted_output holds fun event member =>
    warrants event (inside event member)
  rw [word_events, split, Firmware.controlOutput_append, Firmware.served_output]
  cases high : (controlOutput (served run.base respond gpio earlier).2.controlShadow
    part).getLsbD 9 with
  | false => rfl
  | true => exact absurd rfl (fields.enabled high)

/-- Behind a `DISABLE`, while no `ENABLE` is asked for, the chip is dark from the third
`txusrclk2` edge on, whatever else the clients ask for, and whatever the hardware does. -/
theorem ChipRun.disabled_dark (run : ChipRun)
    (respond : List Firmware.Event → Source → BitVec 32) (gpio : LaserGpio)
    (earlier idle : List Datagram) (stopped n : Nat)
    (disabled : (lastRequested enablingOf earlier).getD false = false)
    (unasked : ∀ datagram ∈ idle, requested datagram.tokens ≠ .call (.setEnable true))
    (begun : (served run.base respond gpio earlier).1 <+: run.events stopped)
    (serving : run.events n <+: (served run.base respond gpio (earlier ++ idle)).1)
    (behind : time run.txClk stopped + 3 ≤ time run.txClk n) : run.Dark n := by
  refine dark_of_silent (dark_of_low (fun m from_ before => ?_) behind)
  rw [← Bool.not_eq_true]
  intro high
  have low := enable_low disabled unasked begun serving from_ before
  rw [enables_word high] at low
  exact nomatch low

/-! ### The client that disables -/

/-- The client of `clientRequests` disables the transmitter before it applies. -/
def disabledRequests : List Datagram := clientRequests ++ [datagramOf "DISABLE"]

namespace DisabledRun

@[irreducible] def prepared : List Firmware.Event :=
  (served 0x40000000#32 ClientRun.respond ⟨0#32⟩ disabledRequests).1

@[irreducible] def applied : List Firmware.Event :=
  (served 0x40000000#32 ClientRun.respond ⟨0#32⟩ (disabledRequests ++ [datagramOf "APPLY"])).1

end DisabledRun

/-- The session of `clientRun`, with the `DISABLE` in it. -/
def disabledRun : ChipRun where
  base := 0x40000000#32
  memory _ := 0#32
  now n :=
    { firmware :=
        if n = 0 then DisabledRun.prepared
        else if n = 38 then DisabledRun.applied.drop DisabledRun.prepared.length else []
      edge := patientEdge n }

namespace DisabledRun

theorem prepared_applied : prepared <+: applied := by
  unfold prepared applied
  exact @Firmware.served_prefix 0x40000000#32 ClientRun.respond ⟨0#32⟩ disabledRequests
    [datagramOf "APPLY"]

theorem events_eq (n : Nat) : disabledRun.events n =
    if n = 0 then [] else if n ≤ 38 then prepared else applied :=
  ChipRun.events_two prepared_applied (fun _ => rfl) n

theorem disables : requested (datagramOf "DISABLE").tokens = .call (.setEnable false) := by
  have tokens : (datagramOf "DISABLE").tokens = ["DISABLE".toList] := by decide +kernel
  rw [tokens]
  rfl

theorem disabled : lastRequested enablingOf disabledRequests = some false := by
  unfold lastRequested disabledRequests
  rw [List.filterMap_append, List.filterMap_cons, disables]
  exact List.getLast?_concat

end DisabledRun

/-- At instant 62, where `clientRun` is lit, nothing is. -/
theorem ChipRun.disabled_dark_disabledRun : disabledRun.Dark 62 := by
  refine ChipRun.disabled_dark disabledRun ClientRun.respond ⟨0#32⟩ disabledRequests
    [datagramOf "APPLY"] 1 62 ?_ ?_ ?_ ?_ ?_
  · rw [DisabledRun.disabled]
    rfl
  · intro datagram member
    rw [List.mem_singleton.mp member, ClientRun.applies]
    exact nofun
  · rw [DisabledRun.events_eq, if_neg Nat.one_ne_zero, if_pos (by decide)]
    unfold DisabledRun.prepared
    exact List.prefix_rfl
  · rw [DisabledRun.events_eq, if_neg (by decide), if_neg (by decide)]
    unfold DisabledRun.applied
    exact List.prefix_rfl
  · have first := @patient_txTime disabledRun (fun _ => rfl) 1
    have last := @patient_txTime disabledRun (fun _ => rfl) 62
    omega

end LaserTx.Delivery
