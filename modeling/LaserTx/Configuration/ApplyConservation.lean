import LaserTx.Configuration.Record

/-!
# One load for each apply

The apply bit is an event coded as a toggle, and a load takes 17 edges.  A flip
may come at any of them; as long as no second flip follows before the first one
is accepted, flips and loads correspond one to one.
-/

namespace LaserTx.Configuration

open Clocked Rtl

/-- The AXI side of a run with `rstn` high, from reset on; GPIO and BRAM are arbitrary. -/
structure LoaderRun where
  edge : Nat → LaserTxCore.AxiInputs
  released : ∀ n, (edge n).axiRstn = true

namespace LoaderRun

variable (run : LoaderRun)

/-- The ports of the loader at edge `n`. -/
def input (n : Nat) : ConfigLoader.Inputs := LaserTxCore.loaderInputs (run.edge n)

/-- The loader before edge `n`. -/
def loader (n : Nat) : ConfigLoader.State := trace ConfigLoader.step ConfigLoader.reset run.input n

/-- `gpio_ctrl[8]` at the edge before edge `n`; low before the run. -/
def applyBefore : Nat → Bool
  | 0 => false
  | n + 1 => (run.input n).applyToggle

/-- Edge `n` sees a new level of `gpio_ctrl[8]`. -/
def Flips (n : Nat) : Prop := (run.input n).applyToggle ≠ run.applyBefore n

/-- Edge `n` accepts an apply. -/
def Accepts (n : Nat) : Prop := ConfigLoader.accepts (run.loader n) (run.input n) = true

/-- No flip follows another one that has not been accepted yet. -/
def Unhurried : Prop :=
  ∀ first second, first < second → run.Flips first → run.Flips second →
    ∃ accepted, first ≤ accepted ∧ accepted < second ∧ run.Accepts accepted

/-- The flip at edge `flip` is the one that edge `accepted` takes: the first acceptance
since, and no other flip in between. -/
structure Serves (flip accepted : Nat) : Prop where
  flips : run.Flips flip
  accepts : run.Accepts accepted
  order : flip ≤ accepted
  only : ∀ other, flip < other → other ≤ accepted → ¬ run.Flips other
  first : ∀ other, flip ≤ other → other < accepted → ¬ run.Accepts other

theorem input_released (n : Nat) : (run.input n).rstn = true := run.released n

theorem loader_succ (n : Nat) :
    run.loader (n + 1) = ConfigLoader.step (run.loader n) (run.input n) := rfl

variable {run}

/-! ## One load -/

/-- The words port B shows at the capture edges of the load accepted at edge `n`. -/
def record (run : LoaderRun) (n : Nat) (j : Fin 8) : BitVec 32 :=
  (run.input (n + 2 + 2 * j.val)).bramDout

/-- Word number `word` of the load accepted at edge `n` is waited for. -/
theorem fetching {n word : Nat} (accepted : run.Accepts n) (bound : word ≤ 7) :
    Fetching (run.input n).configIndex (run.input n).sourceSel (run.input n).directLenSel
      (run.record n) (run.loader n) word (run.loader (n + 1 + 2 * word)) := by
  induction word with
  | zero =>
      unfold Accepts ConfigLoader.accepts at accepted
      rw [Bool.and_eq_true, decide_eq_true_iff, bne_iff_ne] at accepted
      exact fetching_start (run.input_released n) accepted.1 (Bool.eq_not.mpr accepted.2)
  | succ word ih =>
      have before := ih (Nat.le_of_succ_le bound)
      have shown : (run.input (n + 1 + 2 * word + 1)).bramDout =
          run.record n ⟨word, by omega⟩ := by
        unfold record
        rw [show n + 1 + 2 * word + 1 = n + 2 + 2 * word by omega]
      exact before.next bound (run.input_released _) (run.input_released _) shown

/-- The register state at the capture edge of word number `word`. -/
theorem capturing {n word : Nat} (accepted : run.Accepts n) (bound : word ≤ 7) :
    run.loader (n + 2 + 2 * word) =
      { run.loader (n + 1 + 2 * word) with bramEn := true, state := .cap } := by
  have waited := (fetching accepted bound).waited (run.input_released (n + 1 + 2 * word))
  rw [show n + 2 + 2 * word = n + 1 + 2 * word + 1 by omega]
  exact waited

/-- The load accepted at edge `n` lasts 16 further edges and ends with its publication. -/
structure Load (run : LoaderRun) (n : Nat) : Prop where
  /-- The record of the index at edge `n` is addressed word by word, each word for two edges. -/
  addressed : ∀ word, word ≤ 7 →
    (run.loader (n + 1 + 2 * word)).bramEn = true ∧ (run.loader (n + 2 + 2 * word)).bramEn = true ∧
      (run.loader (n + 1 + 2 * word)).bramAddr.toNat =
        4 * (8 * (run.input n).configIndex.toNat + word) ∧
      (run.loader (n + 2 + 2 * word)).bramAddr = (run.loader (n + 1 + 2 * word)).bramAddr
  words : ∀ j : Fin 7, (run.loader (n + 16)).words j = run.record n j.castSucc
  source : (run.loader (n + 16)).latchedSourceSel = (run.input n).sourceSel
  len : (run.loader (n + 16)).latchedDirectLenSel = (run.input n).directLenSel
  last : (run.input (n + 16)).bramDout = run.record n 7
  /-- Everything is published at edge `n + 16`. -/
  committed : run.loader (n + 17) = ConfigLoader.commit (run.loader (n + 16)) (run.input (n + 16))
  /-- None of the edges in between ends or begins a load. -/
  alone : ∀ m, n < m → m ≤ n + 16 → ¬ run.Accepts m ∧
    (ConfigLoader.finishes (run.loader m) (run.input m) = true ↔ m = n + 16)

/-- Inside a load the loader waits at odd distances and captures at even ones. -/
theorem inside {n m : Nat} (accepted : run.Accepts n) (after : n < m) (within : m ≤ n + 16) :
    (run.loader m).state ≠ .idle ∧
      (ConfigLoader.finishes (run.loader m) (run.input m) = true ↔ m = n + 16) := by
  have place := fetching accepted (show (m - n - 1) / 2 ≤ 7 by omega)
  rcases Nat.mod_two_eq_zero_or_one (m - n - 1) with even | odd
  · rw [show n + 1 + 2 * ((m - n - 1) / 2) = m by omega] at place
    refine ⟨?_, ?_⟩
    · rw [place.state]
      exact ConfigLoader.Phase.noConfusion
    · unfold ConfigLoader.finishes
      rw [place.state]
      constructor
      · intro done
        rw [decide_eq_false (by exact ConfigLoader.Phase.noConfusion), Bool.and_false,
          Bool.false_and] at done
        exact absurd done Bool.false_ne_true
      · intro last
        omega
  · have captured := capturing accepted (show (m - n - 1) / 2 ≤ 7 by omega)
    rw [show n + 2 + 2 * ((m - n - 1) / 2) = m by omega] at captured
    refine ⟨?_, ?_⟩
    · rw [captured]
      exact ConfigLoader.Phase.noConfusion
    · have index : (run.loader m).wordIndex.toNat = (m - n - 1) / 2 := by
        rw [captured]
        change (run.loader (n + 1 + 2 * ((m - n - 1) / 2))).wordIndex.toNat = _
        rw [place.wordIndex, BitVec.toNat_ofNat]
        exact Nat.mod_eq_of_lt (by omega)
      have phase : (run.loader m).state = .cap := by
        rw [captured]
      unfold ConfigLoader.finishes
      rw [run.input_released, phase, decide_eq_true rfl, Bool.true_and, Bool.true_and,
        decide_eq_true_iff, BitVec.lt_def, index]
      change ¬ _ < 7 ↔ _
      omega

theorem not_accepts_of_busy {n : Nat} (busy : (run.loader n).state ≠ .idle) : ¬ run.Accepts n := by
  intro accepted
  unfold Accepts ConfigLoader.accepts at accepted
  rw [Bool.and_eq_true, decide_eq_true_iff] at accepted
  exact busy accepted.1

theorem load_of_accepts {n : Nat} (accepted : run.Accepts n) : run.Load n := by
  have last := fetching accepted (Nat.le_refl 7)
  have captured := capturing accepted (Nat.le_refl 7)
  change run.loader (n + 16) = _ at captured
  refine
    { addressed := fun word bound => ?_
      words := fun j => ?_
      source := ?_
      len := ?_
      last := rfl
      committed := ?_
      alone := fun m after within => ?_ }
  · have place := fetching accepted bound
    have shown := capturing accepted bound
    refine ⟨place.bramEn, ?_, place.bramAddr, ?_⟩
    · rw [shown]
    · rw [shown]
  · rw [captured]
    exact last.words j j.isLt
  · rw [captured]
    exact last.sourceSel
  · rw [captured]
    exact last.directLenSel
  · have done := (inside accepted (show n < n + 16 by omega) (Nat.le_refl _)).2.mpr rfl
    rw [run.loader_succ, ConfigLoader.step_finishes done]
  · have place := inside accepted after within
    exact ⟨not_accepts_of_busy place.1, place.2⟩

/-- The loader is idle exactly outside the loads. -/
theorem idle_or_loading (n : Nat) :
    (run.loader n).state = .idle ∨
      ∃ accepted, run.Accepts accepted ∧ accepted < n ∧ n ≤ accepted + 16 := by
  induction n with
  | zero => exact Or.inl rfl
  | succ n ih =>
      cases ih with
      | inl idle =>
          cases taken : ConfigLoader.accepts (run.loader n) (run.input n) with
          | true => exact Or.inr ⟨n, taken, Nat.lt_succ_self n, by omega⟩
          | false => exact Or.inl (ConfigLoader.step_stays_idle (run.input_released n) idle taken)
      | inr loading =>
          obtain ⟨accepted, accepts, after, within⟩ := loading
          rcases Nat.lt_or_eq_of_le within with before | last
          · exact Or.inr ⟨accepted, accepts, Nat.lt_succ_of_lt after, before⟩
          · left
            rw [last, (load_of_accepts accepts).committed]
            rfl

/-! ## Flips and acceptances -/

/-- A flip before edge `n` that has not been accepted yet. -/
def Outstanding (run : LoaderRun) (n flip : Nat) : Prop :=
  flip < n ∧ run.Flips flip ∧ ∀ other, flip ≤ other → other < n → ¬ run.Accepts other

/-- No second flip while one is outstanding. -/
theorem not_flips_of_outstanding (unhurried : run.Unhurried) {n m flip : Nat}
    (outstanding : run.Outstanding n flip) (after : flip < m) (within : m ≤ n) :
    ¬ run.Flips m := by
  intro second
  obtain ⟨_, first, none⟩ := outstanding
  obtain ⟨accepted, from_, before, accepts⟩ := unhurried flip m after first second
  exact none accepted from_ (Nat.lt_of_lt_of_le before within) accepts

theorem accepts_iff {n : Nat} (idle : (run.loader n).state = .idle) :
    run.Accepts n ↔ (run.input n).applyToggle ≠ (run.loader n).applySeen := by
  unfold Accepts ConfigLoader.accepts
  rw [idle, decide_eq_true rfl, Bool.true_and, bne_iff_ne]

/-- Where a level that has not been taken means an outstanding flip, a flip finds the level
before it taken: nothing else is outstanding when it comes. -/
theorem level_of_tracked (unhurried : run.Unhurried) {n : Nat}
    (tracked : run.applyBefore n ≠ (run.loader n).applySeen → ∃ flip, run.Outstanding n flip)
    (flips : run.Flips n) : run.applyBefore n = (run.loader n).applySeen := by
  by_contra differs
  obtain ⟨flip, outstanding⟩ := tracked differs
  exact not_flips_of_outstanding unhurried outstanding outstanding.1 (Nat.le_refl n) flips

/-- The level the loader has taken last differs from that of the GPIO exactly while a
flip is outstanding. -/
theorem applySeen_tracks (unhurried : run.Unhurried) (n : Nat) :
    run.applyBefore n ≠ (run.loader n).applySeen ↔ ∃ flip, run.Outstanding n flip := by
  induction n with
  | zero =>
      refine ⟨fun differs => absurd rfl differs, ?_⟩
      rintro ⟨flip, before, _⟩
      exact absurd before (Nat.not_lt_zero flip)
  | succ n ih =>
      change (run.input n).applyToggle ≠ _ ↔ _
      cases taken : ConfigLoader.accepts (run.loader n) (run.input n) with
      | true =>
          rw [run.loader_succ, ConfigLoader.step_accepts (run.input_released n) taken]
          refine ⟨fun differs => absurd rfl differs, ?_⟩
          rintro ⟨flip, before, _, none⟩
          exact absurd taken (none n (Nat.le_of_lt_succ before) (Nat.lt_succ_self n))
      | false =>
          have refused : ¬ run.Accepts n := fun accepts =>
            absurd (taken.symm.trans accepts) Bool.false_ne_true
          rw [run.loader_succ, ConfigLoader.step_applySeen (run.input_released n) taken]
          by_cases flips : run.Flips n
          · rw [← level_of_tracked unhurried ih.mp flips]
            refine ⟨fun _ => ⟨n, Nat.lt_succ_self n, flips, fun other from_ before => ?_⟩,
              fun _ => flips⟩
            rw [Nat.le_antisymm (Nat.le_of_lt_succ before) from_]
            exact refused
          · have same : (run.input n).applyToggle = run.applyBefore n := not_not.mp flips
            rw [same, ih]
            constructor
            · rintro ⟨flip, before, flipped, none⟩
              refine ⟨flip, Nat.lt_succ_of_lt before, flipped, fun other from_ within => ?_⟩
              rcases Nat.lt_or_eq_of_le (Nat.le_of_lt_succ within) with earlier | now
              · exact none other from_ earlier
              · rw [now]
                exact refused
            · rintro ⟨flip, before, flipped, none⟩
              have earlier : flip < n := by
                refine Nat.lt_of_le_of_ne (Nat.le_of_lt_succ before) fun now => ?_
                rw [now] at flipped
                exact flips flipped
              exact ⟨flip, earlier, flipped, fun other from_ within =>
                none other from_ (Nat.lt_succ_of_lt within)⟩

/-- An outstanding flip is taken as soon as the loader is idle. -/
theorem serves_of_outstanding (unhurried : run.Unhurried) {n flip : Nat}
    (outstanding : run.Outstanding n flip) (accepts : run.Accepts n) : run.Serves flip n where
  flips := outstanding.2.1
  accepts := accepts
  order := Nat.le_of_lt outstanding.1
  only _ after within := not_flips_of_outstanding unhurried outstanding after within
  first := outstanding.2.2

/-- A flip that is accepted at its own edge. -/
theorem serves_itself {n : Nat} (flips : run.Flips n) (accepts : run.Accepts n) :
    run.Serves n n where
  flips := flips
  accepts := accepts
  order := Nat.le_refl n
  only _ after within := absurd (Nat.lt_of_lt_of_le after within) (Nat.lt_irrefl n)
  first _ from_ before := absurd (Nat.lt_of_le_of_lt from_ before) (Nat.lt_irrefl n)

/-- Every acceptance serves a flip. -/
theorem serves_of_accepts (unhurried : run.Unhurried) {n : Nat} (accepts : run.Accepts n) :
    ∃ flip, run.Serves flip n := by
  by_cases flips : run.Flips n
  · exact ⟨n, serves_itself flips accepts⟩
  · have same : (run.input n).applyToggle = run.applyBefore n := not_not.mp flips
    have idle : (run.loader n).state = .idle := by
      by_contra busy
      exact not_accepts_of_busy busy accepts
    have differs := (accepts_iff idle).mp accepts
    rw [same] at differs
    obtain ⟨flip, outstanding⟩ := (applySeen_tracks unhurried n).mp differs
    exact ⟨flip, serves_of_outstanding unhurried outstanding accepts⟩

/-- Every flip is accepted, at most 16 edges later. -/
theorem serves_of_flips (unhurried : run.Unhurried) {n : Nat} (flips : run.Flips n) :
    ∃ accepted, run.Serves n accepted ∧ accepted ≤ n + 16 := by
  rcases @idle_or_loading run n with idle | ⟨begun, accepts, after, within⟩
  · have differs : (run.input n).applyToggle ≠ (run.loader n).applySeen := by
      rw [← level_of_tracked unhurried (applySeen_tracks unhurried n).mp flips]
      exact flips
    exact ⟨n, serves_itself flips ((accepts_iff idle).mpr differs), Nat.le_add_right n 16⟩
  · have load := load_of_accepts accepts
    have outstanding : run.Outstanding (begun + 17) n := by
      refine ⟨by omega, flips, fun other from_ before => ?_⟩
      exact (load.alone other (by omega) (by omega)).1
    have idle : (run.loader (begun + 17)).state = .idle := by
      rw [load.committed]
      rfl
    have steady : (run.input (begun + 17)).applyToggle = run.applyBefore (begun + 17) :=
      not_not.mp (not_flips_of_outstanding unhurried outstanding (by omega) (Nat.le_refl _))
    have accepted : run.Accepts (begun + 17) := by
      rw [accepts_iff idle, steady]
      exact (applySeen_tracks unhurried _).mpr ⟨n, outstanding⟩
    exact ⟨begun + 17, serves_of_outstanding unhurried outstanding accepted, by omega⟩

theorem Serves.accepted_unique {flip first second : Nat} (serves : run.Serves flip first)
    (again : run.Serves flip second) : second = first := by
  rcases Nat.lt_trichotomy second first with earlier | same | later
  · exact absurd again.accepts (serves.first second again.order earlier)
  · exact same
  · exact absurd serves.accepts (again.first first serves.order later)

theorem Serves.flip_unique {first second accepted : Nat} (serves : run.Serves first accepted)
    (again : run.Serves second accepted) : second = first := by
  rcases Nat.lt_trichotomy second first with earlier | same | later
  · exact absurd serves.flips (again.only first earlier serves.order)
  · exact same
  · exact absurd again.flips (serves.only second later again.order)

/-! ## Publications -/

/-- Edge `n` flips `cfg_update_toggle`. -/
def Updates (run : LoaderRun) (n : Nat) : Prop :=
  (run.loader (n + 1)).cfgUpdateToggle ≠ (run.loader n).cfgUpdateToggle

theorem updates_iff_finishes {n : Nat} :
    run.Updates n ↔ ConfigLoader.finishes (run.loader n) (run.input n) = true := by
  unfold Updates
  rw [run.loader_succ]
  cases done : ConfigLoader.finishes (run.loader n) (run.input n) with
  | true =>
      rw [ConfigLoader.step_finishes done]
      have inverted (level : Bool) : (!level) ≠ level := by
        cases level <;> decide
      exact ⟨fun _ => rfl, fun _ => inverted _⟩
  | false =>
      rw [(ConfigLoader.step_publishes (run.input_released n) done).2.1]
      exact ⟨fun differs => absurd rfl differs, fun high => absurd high Bool.false_ne_true⟩

/-- The update toggle flips 16 edges after each acceptance and at no other edge. -/
theorem updates_iff {n : Nat} :
    run.Updates n ↔ ∃ accepted, run.Accepts accepted ∧ n = accepted + 16 := by
  rw [updates_iff_finishes]
  constructor
  · intro done
    rcases @idle_or_loading run n with idle | ⟨accepted, accepts, after, within⟩
    · unfold ConfigLoader.finishes at done
      rw [idle, decide_eq_false ConfigLoader.Phase.noConfusion, Bool.and_false,
        Bool.false_and] at done
      exact absurd done Bool.false_ne_true
    · exact ⟨accepted, accepts, ((load_of_accepts accepts).alone n after within).2.mp done⟩
  · rintro ⟨accepted, accepts, last⟩
    exact ((load_of_accepts accepts).alone n (by omega) (by omega)).2.mpr last

end LoaderRun

/-- Every apply is loaded once and published as a whole. -/
structure AppliesConserved (run : LoaderRun) : Prop where
  /-- Each flip is accepted exactly once, at most 16 edges later. -/
  served : ∀ flip, run.Flips flip → ∃ accepted, run.Serves flip accepted ∧
    accepted ≤ flip + 16 ∧ ∀ other, run.Serves flip other → other = accepted
  /-- Each acceptance answers exactly one flip. -/
  asked : ∀ accepted, run.Accepts accepted → ∃ flip, run.Serves flip accepted ∧
    ∀ other, run.Serves other accepted → other = flip
  /-- Each acceptance is a complete load of what its own edge selected. -/
  loads : ∀ accepted, run.Accepts accepted → run.Load accepted
  updates : ∀ n, run.Updates n ↔ ∃ accepted, run.Accepts accepted ∧ n = accepted + 16
  /-- What is published changes only with the update toggle. -/
  atomic : ∀ n, ¬ run.Updates n →
    (run.loader (n + 1)).config = (run.loader n).config ∧
      (run.loader (n + 1)).cfgError = (run.loader n).cfgError ∧
      (run.loader (n + 1)).errorCode = (run.loader n).errorCode
  spaced : ∀ first second, first < second → run.Updates first → run.Updates second →
    first + 17 ≤ second

/-- Without hurried flips no apply is lost or duplicated. -/
theorem applies_conserved {run : LoaderRun} (unhurried : run.Unhurried) : AppliesConserved run where
  served flip flips := by
    obtain ⟨accepted, serves, prompt⟩ := LoaderRun.serves_of_flips unhurried flips
    exact ⟨accepted, serves, prompt, fun _ again => serves.accepted_unique again⟩
  asked accepted accepts := by
    obtain ⟨flip, serves⟩ := LoaderRun.serves_of_accepts unhurried accepts
    exact ⟨flip, serves, fun _ again => serves.flip_unique again⟩
  loads _ accepts := LoaderRun.load_of_accepts accepts
  updates _ := LoaderRun.updates_iff
  atomic n still := by
    have goesOn : ConfigLoader.finishes (run.loader n) (run.input n) = false :=
      (Bool.not_eq_true _).mp fun done => still (LoaderRun.updates_iff_finishes.mpr done)
    obtain ⟨config, _, error⟩ := ConfigLoader.step_publishes (run.input_released n) goesOn
    exact ⟨config, error.1, error.2⟩
  spaced first second order firstUpdates secondUpdates := by
    obtain ⟨a, firstAccepts, rfl⟩ := LoaderRun.updates_iff.mp firstUpdates
    obtain ⟨b, secondAccepts, rfl⟩ := LoaderRun.updates_iff.mp secondUpdates
    rcases Nat.lt_or_ge (a + 16) b with apart | near
    · omega
    · have busy := (LoaderRun.load_of_accepts firstAccepts).alone b (by omega) near
      exact absurd secondAccepts busy.1

/-- A flip at the first edge of the run, and one at edge 5, while the first load is running. -/
def doubleFlip : LoaderRun where
  edge n :=
    { axiRstn := true, gpioCtrl := if n < 5 then 0x100#32 else 0#32, bramDout := 0#32 }
  released _ := rfl

theorem doubleFlip_flips {n : Nat} (flips : doubleFlip.Flips n) : n = 0 ∨ n = 5 := by
  cases n with
  | zero => exact Or.inl rfl
  | succ n =>
      by_contra other
      apply flips
      change (if n + 1 < 5 then 0x100#32 else 0#32).getLsbD 8 =
        (if n < 5 then 0x100#32 else 0#32).getLsbD 8
      rw [if_congr (show n + 1 < 5 ↔ n < 5 by omega) rfl rfl]

theorem doubleFlip_unhurried : doubleFlip.Unhurried := by
  intro first second order flips again
  have start : first = 0 := by
    rcases doubleFlip_flips flips with start | late
    · exact start
    · rcases doubleFlip_flips again with start | again
      · omega
      · omega
  refine ⟨0, Nat.le_of_eq start, by omega, ?_⟩
  unfold LoaderRun.Accepts
  decide

/-- The second flip waits for the end of the first load. -/
theorem applies_conserved_doubleFlip :
    (doubleFlip.Flips 5 ∧ ¬ doubleFlip.Accepts 5 ∧ doubleFlip.Accepts 17) ∧
      AppliesConserved doubleFlip := by
  refine ⟨?_, applies_conserved doubleFlip_unhurried⟩
  unfold LoaderRun.Flips LoaderRun.Accepts
  decide

end LaserTx.Configuration
