import LaserTx.Clocked.Trace
import LaserTx.Firmware.WriteConfig
import LaserTx.Rtl.LaserTxCore

/-!
# The 32-byte record, from the firmware to the loader

The firmware packs a configuration into eight BRAM words; the loader reads the
words through port B, one every second edge, and unpacks them.  The invariant
`Fetching` says what the loader holds after `word` of the eight words.
-/

namespace LaserTx.Configuration

open Clocked Firmware Rtl

/-! ## Eight reads -/

/-- The loader waits for word number `word` of a record whose words are `record`. -/
structure Fetching (index : BitVec 8) (directSource directLen127 : Bool)
    (record : Fin 8 → BitVec 32) (start : ConfigLoader.State) (word : Nat)
    (s : ConfigLoader.State) : Prop where
  state : s.state = .wait
  wordIndex : s.wordIndex = BitVec.ofNat 3 word
  baseAddr : s.baseAddr = ConfigLoader.recordAddr index
  bramEn : s.bramEn = true
  bramAddr : s.bramAddr.toNat = 4 * (8 * index.toNat + word)
  words : ∀ j : Fin 7, j.val < word → s.words j = record j.castSucc
  sourceSel : s.latchedSourceSel = directSource
  directLenSel : s.latchedDirectLenSel = directLen127
  config : s.config = start.config
  toggle : s.cfgUpdateToggle = start.cfgUpdateToggle

theorem recordAddr_toNat (index : BitVec 8) :
    (ConfigLoader.recordAddr index).toNat = 32 * index.toNat := by
  have bound := index.isLt
  unfold ConfigLoader.recordAddr
  rw [BitVec.toNat_setWidth, BitVec.toNat_append, BitVec.toNat_ofNat, Nat.zero_mod, Nat.or_zero,
    Nat.shiftLeft_eq]
  omega

theorem nextWordOffset_toNat : ∀ {word : Nat}, word < 7 →
    (ConfigLoader.nextWordOffset (BitVec.ofNat 3 word)).toNat = 4 * (word + 1) := by decide

variable {index : BitVec 8} {directSource directLen127 : Bool} {record : Fin 8 → BitVec 32}
  {start s : ConfigLoader.State} {word : Nat}

/-- The edge that accepts the apply toggle. -/
theorem fetching_start {i : ConfigLoader.Inputs} (released : i.rstn = true)
    (idle : start.state = .idle) (flipped : i.applyToggle = !start.applySeen) :
    Fetching i.configIndex i.sourceSel i.directLenSel record start 0
      (ConfigLoader.step start i) := by
  have changed : (i.applyToggle != start.applySeen) = true := by
    rw [flipped]
    exact Bool.not_bne_self _
  rw [ConfigLoader.step_idle released idle, if_pos changed]
  exact
    { state := rfl, wordIndex := rfl, baseAddr := rfl, bramEn := rfl
      bramAddr := by
        change (ConfigLoader.recordAddr i.configIndex).toNat = _
        rw [recordAddr_toNat]
        omega
      words := fun j early => absurd early (Nat.not_lt_zero _)
      sourceSel := rfl, directLenSel := rfl, config := rfl, toggle := rfl }

namespace Fetching

/-- The wait edge. -/
theorem waited (holds : Fetching index directSource directLen127 record start word s)
    {i : ConfigLoader.Inputs} (released : i.rstn = true) :
    ConfigLoader.step s i = { s with bramEn := true, state := .cap } :=
  ConfigLoader.step_wait released holds.state

/-- A wait edge and a capture edge move on to the next word. -/
theorem next (holds : Fetching index directSource directLen127 record start word s)
    (bound : word < 7) {first second : ConfigLoader.Inputs} (released1 : first.rstn = true)
    (released2 : second.rstn = true)
    (answered : second.bramDout = record ⟨word, by omega⟩) :
    Fetching index directSource directLen127 record start (word + 1)
      (ConfigLoader.step (ConfigLoader.step s first) second) := by
  have counter : s.wordIndex.toNat = word := by
    rw [holds.wordIndex, BitVec.toNat_ofNat]
    exact Nat.mod_eq_of_lt (by omega)
  have early : s.wordIndex < 7#3 := by
    rw [BitVec.lt_def, counter]
    exact bound
  rw [holds.waited released1, ConfigLoader.step_cap released2 rfl, if_pos early]
  exact
    { state := rfl
      wordIndex := by
        change s.wordIndex + 1#3 = _
        rw [holds.wordIndex, BitVec.ofNat_add]
      baseAddr := holds.baseAddr
      bramEn := rfl
      bramAddr := by
        change (s.baseAddr + ConfigLoader.nextWordOffset s.wordIndex).toNat = _
        have small := index.isLt
        rw [BitVec.toNat_add, holds.baseAddr, recordAddr_toNat, holds.wordIndex,
          nextWordOffset_toNat bound]
        omega
      words := by
        intro j before
        change (if j.val = s.wordIndex.toNat then second.bramDout else s.words j) = _
        rw [counter]
        by_cases now : j.val = word
        · rw [if_pos now, answered]
          exact congrArg record (Fin.ext now.symm)
        · rw [if_neg now]
          exact holds.words j (by omega)
      sourceSel := holds.sourceSel
      directLenSel := holds.directLenSel
      config := holds.config
      toggle := holds.toggle }

/-- The capture edge of word 7 publishes the whole configuration. -/
theorem last (holds : Fetching index directSource directLen127 record start 7 s)
    {first second : ConfigLoader.Inputs} (released1 : first.rstn = true)
    (released2 : second.rstn = true) :
    ConfigLoader.step (ConfigLoader.step s first) second =
      ConfigLoader.commit { s with bramEn := true, state := .cap } second := by
  have late : ¬ s.wordIndex < 7#3 := by
    rw [holds.wordIndex]
    decide
  rw [holds.waited released1, ConfigLoader.step_cap released2 rfl, if_neg late]

end Fetching

/-! ## One load -/

/-- A loader that starts idle and sees the flipped apply bit at edge 0.  Port B
answers each enabled read with the addressed word one edge later; at every edge
the memory holds the record. -/
structure RecordLoad (index : BitVec 8) (directSource directLen127 : Bool)
    (record : Fin 8 → BitVec 32) where
  start : ConfigLoader.State
  edge : Nat → LaserTxCore.AxiInputs
  memory : Nat → Bram
  released : ∀ n, (edge n).axiRstn = true
  idle : start.state = .idle
  flipped : (edge 0).gpioCtrl.getLsbD 8 = !start.applySeen
  selected : (edge 0).gpioCtrl.setWidth 8 = index
  source : (edge 0).gpioCtrl.getLsbD 11 = directSource
  len : (edge 0).gpioCtrl.getLsbD 12 = directLen127
  holds : ∀ n j, memory n (recordWord index j) = record j
  portB : ∀ n,
    (trace ConfigLoader.step start (fun n => LaserTxCore.loaderInputs (edge n)) n).bramEn = true →
    (edge (n + 1)).bramDout = memory n
      ((trace ConfigLoader.step start (fun n => LaserTxCore.loaderInputs (edge n)) n).bramAddr.toNat
        / 4)

namespace RecordLoad

variable (load : RecordLoad index directSource directLen127 record)

/-- The loader before edge `n`. -/
def loader (n : Nat) : ConfigLoader.State :=
  trace ConfigLoader.step load.start (fun n => LaserTxCore.loaderInputs (load.edge n)) n

theorem loader_succ (n : Nat) :
    load.loader (n + 1) =
      ConfigLoader.step (load.loader n) (LaserTxCore.loaderInputs (load.edge n)) := rfl

/-- What port B shows at the capture edge of a word. -/
theorem answered {n word : Nat} (bound : word < 8)
    (fetching : Fetching index directSource directLen127 record load.start word (load.loader n)) :
    (load.edge (n + 1)).bramDout = record ⟨word, bound⟩ := by
  have shown := load.portB n fetching.bramEn
  change _ = load.memory n ((load.loader n).bramAddr.toNat / 4) at shown
  rw [shown, fetching.bramAddr, Nat.mul_div_cancel_left _ (by decide)]
  exact load.holds n ⟨word, bound⟩

/-- Word number `word` is waited for after `1 + 2 * word` edges. -/
theorem fetching_run {word : Nat} (bound : word ≤ 7) :
    Fetching index directSource directLen127 record load.start word
      (load.loader (1 + 2 * word)) := by
  induction word with
  | zero =>
      have begun : Fetching ((load.edge 0).gpioCtrl.setWidth 8)
          ((load.edge 0).gpioCtrl.getLsbD 11) ((load.edge 0).gpioCtrl.getLsbD 12) record
          load.start 0 (load.loader 1) :=
        @fetching_start record load.start (LaserTxCore.loaderInputs (load.edge 0))
          (load.released 0) load.idle load.flipped
      rw [load.selected, load.source, load.len] at begun
      exact begun
  | succ word ih =>
      have before := ih (Nat.le_of_succ_le bound)
      exact before.next bound (load.released _) (load.released _)
        (load.answered (Nat.lt_succ_of_lt bound) before)

/-- Nothing is published before the last edge. -/
theorem unpublished {n : Nat} (early : n ≤ 16) :
    (load.loader n).config = load.start.config ∧
      (load.loader n).cfgUpdateToggle = load.start.cfgUpdateToggle := by
  rcases Nat.eq_zero_or_pos n with first | positive
  · subst first
    exact ⟨rfl, rfl⟩
  · have fetching := load.fetching_run (show (n - 1) / 2 ≤ 7 by omega)
    rcases Nat.mod_two_eq_zero_or_one (n - 1) with even | odd
    · rw [show n = 1 + 2 * ((n - 1) / 2) by omega]
      exact ⟨fetching.config, fetching.toggle⟩
    · rw [show n = 1 + 2 * ((n - 1) / 2) + 1 by omega, load.loader_succ,
        fetching.waited (load.released _)]
      exact ⟨fetching.config, fetching.toggle⟩

/-- After 17 edges the loader is idle again and has published the record. -/
theorem published :
    ∃ s, Fetching index directSource directLen127 record load.start 7 s ∧
      load.loader 17 = ConfigLoader.commit { s with bramEn := true, state := .cap }
        (LaserTxCore.loaderInputs (load.edge 16)) ∧
      (load.edge 16).bramDout = record 7 := by
  have fetching := load.fetching_run (Nat.le_refl 7)
  refine ⟨load.loader 15, fetching, ?_, load.answered (by decide) fetching⟩
  exact fetching.last (load.released 15) (load.released 16)

end RecordLoad

/-! ## The decoded record -/

/-- The error code of a record, by the first check it fails. -/
def recordError (args : WriteConfigArgs) : BitVec 8 :=
  if args.repeatCycles = 0#32 then 0x01#8
  else if args.prbsOrder ≠ 6#32 ∧ args.prbsOrder ≠ 7#32 then 0x02#8
  else if args.repeatCycles < args.insertAfter then 0x03#8
  else 0x00#8

/-- The loader's registers agree with the arguments of `WRITE_CONFIG` and the
selected source and length. -/
structure RecordDecoded (args : WriteConfigArgs) (directSource directLen127 : Bool)
    (start loaded : ConfigLoader.State) : Prop where
  idle : loaded.state = .idle
  toggled : loaded.cfgUpdateToggle = !start.cfgUpdateToggle
  repeatCycles : loaded.config.repeatCycles = args.repeatCycles
  gapLenBits : loaded.config.gapLenBits.toNat = args.gapLenBits.toNat
  insertAfter : loaded.config.insertAfter.toNat = args.insertAfter.toNat
  prbsOrder : loaded.config.prbsOrder.toNat = args.prbsOrder.toNat
  phaseShiftEn : loaded.config.phaseShiftEn.toNat = args.phaseShiftEn.toNat
  loopEn : loaded.config.loopEn.toNat = args.loopEn.toNat
  activeSourceSel : loaded.config.activeSourceSel = directSource
  seed : loaded.config.seed =
    if args.seed = 0#32 then if args.prbsOrder = 6#32 then 0x3f#32 else 0x7f#32 else args.seed
  patternLen : loaded.config.patternLen =
    if directSource then if directLen127 then 127#8 else 63#8
    else if args.prbsOrder = 6#32 then 63#8 else 127#8
  directPattern : loaded.config.directPattern =
    args.patternTop.setWidth 31 ++ args.patternHigh ++ args.patternMid ++ args.patternLow
  errorCode : loaded.errorCode = recordError args
  cfgError : loaded.cfgError = decide (recordError args ≠ 0x00#8)
  cfgValid : loaded.config.cfgValid = decide (recordError args = 0x00#8)

theorem invalid_eq (s : ConfigLoader.State) :
    ConfigLoader.invalid s = decide (ConfigLoader.newErrorCode s ≠ 0x00#8) := by
  unfold ConfigLoader.invalid ConfigLoader.newErrorCode
  split
  · rfl
  · split
    · rfl
    · split
      · rfl
      · split
        · rfl
        · rfl

/-- A value that fits is recognized after narrowing. -/
theorem narrow_eq_iff {value : BitVec 32} (fits : value.toNat ≤ 255) (code : BitVec 8) :
    value.setWidth 8 = code ↔ value = code.setWidth 32 := by
  have small := code.isLt
  rw [← BitVec.toNat_inj, ← BitVec.toNat_inj, toNat_narrow (Nat.lt_succ_of_le fits),
    BitVec.toNat_setWidth, Nat.mod_eq_of_lt (by omega)]

section Decode

variable {args : WriteConfigArgs}

theorem encodedOrder (s : ConfigLoader.State)
    (word3 : s.words 3 = laserConfigToWords args.config 3) :
    ConfigLoader.wordOrder s = args.prbsOrder.setWidth 8 := by
  unfold ConfigLoader.wordOrder
  rw [word3]
  exact word3_prbsOrder args.config

theorem encodedInsertAfter (s : ConfigLoader.State)
    (word2 : s.words 2 = laserConfigToWords args.config 2) :
    ConfigLoader.wordInsertAfter s = args.insertAfter.setWidth 16 := by
  unfold ConfigLoader.wordInsertAfter
  rw [word2]
  exact word2_insertAfter args.config

/-- An enable bit survives encoding and decoding. -/
theorem enable_toNat {value : BitVec 32} (fits : value.toNat ≤ 1) :
    (decide (value.setWidth 8 ≠ 0#8)).toNat = value.toNat := by
  rw [decide_not, decide_eq_decide.mpr (narrow_eq_iff (Nat.le_trans fits (by decide)) 0#8)]
  rcases Nat.le_one_iff_eq_zero_or_eq_one.mp fits with zero | one
  · rw [decide_eq_true (BitVec.eq_of_toNat_eq zero), zero]
    rfl
  · have other : value ≠ BitVec.setWidth 32 0#8 := by
      intro same
      rw [same] at one
      exact absurd one (by decide)
    rw [decide_eq_false other, one]
    rfl

/-- The loader's checks on the encoded words are those on the arguments. -/
theorem newErrorCode_eq (inRange : args.inRange = true) (s : ConfigLoader.State)
    (word1 : s.words 1 = args.repeatCycles)
    (word2 : s.words 2 = laserConfigToWords args.config 2)
    (word3 : s.words 3 = laserConfigToWords args.config 3) :
    ConfigLoader.newErrorCode s = recordError args := by
  obtain ⟨_, _, insertFits, orderFits, _, _⟩ := inRange_bounds inRange
  have insert : (ConfigLoader.wordInsertAfter s).setWidth 32 = args.insertAfter := by
    apply BitVec.eq_of_toNat_eq
    rw [encodedInsertAfter s word2, BitVec.toNat_setWidth, toNat_narrow (Nat.lt_succ_of_le insertFits)]
    exact Nat.mod_eq_of_lt args.insertAfter.isLt
  have lens : ¬ (ConfigLoader.selectedLen s ≠ 63#8 ∧ ConfigLoader.selectedLen s ≠ 127#8) := by
    unfold ConfigLoader.selectedLen
    split
    · split
      · exact fun both => both.2 rfl
      · exact fun both => both.1 rfl
    · split
      · exact fun both => both.1 rfl
      · exact fun both => both.2 rfl
  unfold ConfigLoader.newErrorCode recordError
  rw [insert, word1, encodedOrder s word3, if_neg lens]
  simp only [ne_eq, narrow_eq_iff orderFits]
  rfl

end Decode

/-- A load of an encoded record decodes to the arguments. -/
theorem record_decoded {args : WriteConfigArgs} (inRange : args.inRange = true)
    (load : RecordLoad args.index8 directSource directLen127 (laserConfigToWords args.config)) :
    RecordDecoded args directSource directLen127 load.start (load.loader 17) := by
  obtain ⟨s, fetched, ended, top⟩ := load.published
  obtain ⟨_, gapFits, insertFits, orderFits, shiftFits, loopFits⟩ := inRange_bounds inRange
  have word (j : Fin 7) := fetched.words j j.isLt
  have order := encodedOrder s (word 3)
  have insert := encodedInsertAfter s (word 2)
  have error := newErrorCode_eq inRange s (word 1) (word 2) (word 3)
  have isSix : ConfigLoader.wordOrder s = 6#8 ↔ args.prbsOrder = 6#32 := by
    rw [order]
    exact narrow_eq_iff orderFits 6#8
  rw [ended]
  exact
    { idle := rfl
      toggled := congrArg not fetched.toggle
      repeatCycles := word 1
      gapLenBits := by
        change ((s.words 2).setWidth 8).toNat = _
        rw [word 2]
        exact (congrArg _ (word2_gapLenBits args.config)).trans
          (toNat_narrow (Nat.lt_succ_of_le gapFits))
      insertAfter := by
        change (ConfigLoader.wordInsertAfter s).toNat = _
        rw [insert]
        exact toNat_narrow (Nat.lt_succ_of_le insertFits)
      prbsOrder := by
        change (ConfigLoader.wordOrder s).toNat = _
        rw [order]
        exact toNat_narrow (Nat.lt_succ_of_le orderFits)
      phaseShiftEn := by
        change ((s.words 3).getLsbD 8).toNat = _
        rw [word 3]
        exact (congrArg _ (word3_phaseShiftEn args.config)).trans (enable_toNat shiftFits)
      loopEn := by
        change ((s.words 3).getLsbD 9).toNat = _
        rw [word 3]
        exact (congrArg _ (word3_loopEn args.config)).trans (enable_toNat loopFits)
      activeSourceSel := fetched.sourceSel
      seed := by
        change (if s.words 0 = 0#32 then
          if ConfigLoader.wordOrder s = 6#8 then _ else _ else s.words 0) = _
        rw [word 0]
        simp only [isSix]
        rfl
      patternLen := by
        change ConfigLoader.selectedLen s = _
        unfold ConfigLoader.selectedLen
        rw [fetched.sourceSel, fetched.directLenSel]
        simp only [isSix]
      directPattern := by
        change (load.edge 16).bramDout.setWidth 31 ++ s.words 6 ++ s.words 5 ++ s.words 4 = _
        rw [top, word 6, word 5, word 4]
        rfl
      errorCode := error
      cfgError := (invalid_eq s).trans (by rw [error])
      cfgValid := by
        change (!ConfigLoader.invalid s) = _
        rw [invalid_eq, error, decide_not, Bool.not_not] }

/-! ## From the commands to the published configuration -/

/-- The firmware has run `applyRecord` on any BRAM contents; afterwards it goes
on with anything that writes no word of this record.  The loader is idle when
it first sees the new control word. -/
structure RecordApply (base : BitVec 32) (args : WriteConfigArgs) (gpio : LaserGpio)
    (directSource directLen127 : Bool) where
  respond : List Event → Source → BitVec 32
  bram : Bram
  /-- What the firmware has done since, before each `axi_clk` edge. -/
  later : Nat → List Event
  others : ∀ n event, event ∈ later n → WritesOthers base args.index8 event
  start : ConfigLoader.State
  edge : Nat → LaserTxCore.AxiInputs
  released : ∀ n, (edge n).axiRstn = true
  idle : start.state = .idle
  /-- Every earlier apply has been accepted. -/
  seen : start.applySeen = gpio.controlShadow.getLsbD 8
  control : (edge 0).gpioCtrl =
    ((applyRecord base args gpio directSource directLen127).run respond []).2.controlShadow
  portB : ∀ n,
    (trace ConfigLoader.step start (fun n => LaserTxCore.loaderInputs (edge n)) n).bramEn = true →
    (edge (n + 1)).bramDout =
      bram.afterAll base
        (((applyRecord base args gpio directSource directLen127).run respond []).1 ++ later n)
        ((trace ConfigLoader.step start (fun n => LaserTxCore.loaderInputs (edge n)) n).bramAddr.toNat
          / 4)

section Apply

variable {base : BitVec 32} {args : WriteConfigArgs} {gpio : LaserGpio}

theorem appliedWord_getLsbD {i : Nat} (bound : i < 32) :
    (appliedWord args gpio directSource directLen127).getLsbD i =
      ((if i < 8 then args.index8.getLsbD i
        else if i = 11 then directSource
        else if i = 12 then directLen127
        else gpio.controlShadow.getLsbD i) ^^ decide (i = 8)) := by
  unfold appliedWord
  rw [toggleApply_getLsbD _ bound, selectConfigWord_getLsbD _ _ _ _ bound]

theorem appliedWord_index :
    (appliedWord args gpio directSource directLen127).setWidth 8 = args.index8 := by
  apply BitVec.eq_of_getLsbD_eq
  intro i bound
  have other : decide (i = 8) = false := decide_eq_false (Nat.ne_of_lt bound)
  rw [BitVec.getLsbD_setWidth, decide_eq_true bound, Bool.true_and,
    appliedWord_getLsbD (Nat.lt_trans bound (by decide)), if_pos bound, other, Bool.xor_false]

/-- What the loader and port B see of the commands. -/
def RecordApply.toLoad (apply : RecordApply base args gpio directSource directLen127) :
    RecordLoad args.index8 directSource directLen127 (laserConfigToWords args.config) where
  start := apply.start
  edge := apply.edge
  memory n := apply.bram.afterAll base
    (((applyRecord base args gpio directSource directLen127).run apply.respond []).1 ++
      apply.later n)
  released := apply.released
  idle := apply.idle
  flipped := by
    rw [apply.control, applyRecord_run, appliedWord_getLsbD (by decide), apply.seen]
    exact Bool.xor_true _
  selected := by
    rw [apply.control, applyRecord_run]
    exact appliedWord_index
  source := by
    rw [apply.control, applyRecord_run, appliedWord_getLsbD (by decide)]
    exact Bool.xor_false _
  len := by
    rw [apply.control, applyRecord_run, appliedWord_getLsbD (by decide)]
    exact Bool.xor_false _
  holds n j := by
    rw [afterAll_append, afterAll_others base _ args.index8 j _ (apply.others n)]
    exact applyRecord_record base apply.bram args gpio directSource directLen127 j
  portB := apply.portB

/-- Encoder and decoder agree: 17 edges after the apply bit is seen the loader
has published exactly the configuration that `WRITE_CONFIG` accepted. -/
theorem record_agrees (apply : RecordApply base args gpio directSource directLen127)
    (inRange : args.inRange = true) :
    RecordDecoded args directSource directLen127 apply.start (apply.toLoad.loader 17) ∧
      ∀ n, n ≤ 16 → (apply.toLoad.loader n).config = apply.start.config ∧
        (apply.toLoad.loader n).cfgUpdateToggle = apply.start.cfgUpdateToggle :=
  ⟨record_decoded inRange apply.toLoad, fun _ early => apply.toLoad.unpublished early⟩

end Apply

/-! ### A board that meets the assumptions -/

/-- Loader and port B as one clocked machine: an enabled read loads the output
register of the port. -/
def boardStep (memory : Bram) (s : ConfigLoader.State × BitVec 32) (control : BitVec 32) :
    ConfigLoader.State × BitVec 32 :=
  (ConfigLoader.step s.1
      (LaserTxCore.loaderInputs { axiRstn := true, gpioCtrl := control, bramDout := s.2 }),
    if s.1.bramEn then memory (s.1.bramAddr.toNat / 4) else s.2)

/-- The inputs of the loader on such a board under a constant control word. -/
def boardEdge (memory : Bram) (start : ConfigLoader.State) (control : BitVec 32) (n : Nat) :
    LaserTxCore.AxiInputs :=
  { axiRstn := true
    gpioCtrl := control
    bramDout := (trace (boardStep memory) (start, 0#32) (fun _ => control) n).2 }

theorem boardEdge_loader (memory : Bram) (start : ConfigLoader.State) (control : BitVec 32)
    (n : Nat) :
    trace ConfigLoader.step start
        (fun n => LaserTxCore.loaderInputs (boardEdge memory start control n)) n =
      (trace (boardStep memory) (start, 0#32) (fun _ => control) n).1 := by
  induction n with
  | zero => rfl
  | succ n ih =>
      rw [trace_succ, ih, trace_succ]
      rfl

/-- The three commands on a board whose loader has just been reset. -/
def boardApply (base : BitVec 32) (bram : Bram) (args : WriteConfigArgs)
    (directSource directLen127 : Bool) :
    RecordApply base args { controlShadow := 0#32 } directSource directLen127 where
  respond _ _ := 0#32
  bram := bram
  later _ := []
  others _ _ member := absurd member List.not_mem_nil
  start := ConfigLoader.reset
  edge := boardEdge
    (bram.afterAll base ((applyRecord base args { controlShadow := 0#32 } directSource
      directLen127).run (fun _ _ => 0#32) []).1)
    ConfigLoader.reset (appliedWord args { controlShadow := 0#32 } directSource directLen127)
  released _ := rfl
  idle := rfl
  seen := rfl
  control := by
    rw [applyRecord_run]
    rfl
  portB n enabled := by
    rw [boardEdge_loader] at enabled ⊢
    rw [List.append_nil]
    exact if_pos enabled

/-- A PRBS-6 record with zero seed at index 255. -/
def scenarioArgs : WriteConfigArgs :=
  { index := 255#32, seed := 0#32, repeatCycles := 3#32, gapLenBits := 10#32
    insertAfter := 2#32, prbsOrder := 6#32, phaseShiftEn := 1#32, loopEn := 0#32
    patternLow := 0#32, patternMid := 0#32, patternHigh := 0#32, patternTop := 0#32 }

theorem record_agrees_scenario :
    RecordDecoded scenarioArgs false false ConfigLoader.reset
      ((boardApply 0x40000000#32 (fun _ => 0#32) scenarioArgs false false).toLoad.loader 17) :=
  (record_agrees (boardApply 0x40000000#32 (fun _ => 0#32) scenarioArgs false false)
    (by decide)).1

end LaserTx.Configuration
