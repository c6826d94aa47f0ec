import LaserTx.Firmware.CommandEffects

/-!
# Reading the answers of the rate command

The beginning of an answer tells which branch of `handle_rate_command` has written
it, and the number behind `target=` is the one of the command.
-/

namespace LaserTx.Firmware

/-! ## The answer with `state=DONE` -/

/-- The answer of a switch that has ended in `RATE_DONE`. -/
def AnswersDone (targetMbps : BitVec 32) (response : String) : Prop :=
  BeginsWith s!"OK RATE_SET target={targetMbps.toNat} current_rate=" response

theorem beginsWith_trans {first second text : String} (inner : BeginsWith first second)
    (outer : BeginsWith second text) : BeginsWith first text := by
  obtain ⟨rest, rfl⟩ := outer
  exact inner.append rest

/-- A text has one beginning of each length. -/
theorem beginsWith_unique {first second text : String} (one : BeginsWith first text)
    (other : BeginsWith second text) (same : first.toList.length = second.toList.length) :
    first = second := by
  obtain ⟨rest, rfl⟩ := one
  obtain ⟨more, equal⟩ := other
  have lists := congrArg String.toList equal
  rw [String.toList_append, String.toList_append] at lists
  exact String.toList_inj.mp (List.append_inj_left lists same)

theorem AnswersDone.literal {targetMbps : BitVec 32} {response : String}
    (done : AnswersDone targetMbps response) : BeginsWith "OK RATE_SET target=" response := by
  refine beginsWith_trans ?_ done
  have literal : BeginsWith "OK RATE_SET target=" "OK RATE_SET target=" := ⟨"", rfl⟩
  repeat' apply BeginsWith.append
  exact literal

theorem not_answersDone {start wrong response : String} (begins : BeginsWith wrong response)
    (right : BeginsWith start "OK RATE_SET target=")
    (same : start.toList.length = wrong.toList.length) (differs : start ≠ wrong)
    (targetMbps : BitVec 32) : ¬ AnswersDone targetMbps response :=
  fun done => differs (beginsWith_unique (beginsWith_trans right done.literal) begins same)

theorem error_not_done {response : String} (begins : BeginsWith "E" response)
    (targetMbps : BitVec 32) : ¬ AnswersDone targetMbps response :=
  @not_answersDone "O" "E" response begins ⟨"K RATE_SET target=", rfl⟩ (by decide) (by decide)
    targetMbps

/-- Two lists that agree are cut alike by the first separator. -/
theorem split_at_first {separator : Char} {left other rest more : List Char}
    (free : separator ∉ left) (freeOther : separator ∉ other)
    (same : left ++ separator :: rest = other ++ separator :: more) :
    left = other ∧ rest = more := by
  induction left generalizing other with
  | nil =>
      cases other with
      | nil => exact ⟨rfl, (List.cons.inj same).2⟩
      | cons head tail =>
          have first := (List.cons.inj same).1
          exact absurd (first ▸ List.mem_cons_self) freeOther
  | cons head tail ih =>
      cases other with
      | nil =>
          have first := (List.cons.inj same).1
          exact absurd (first ▸ List.mem_cons_self) free
      | cons first others =>
          obtain ⟨rfl, tails⟩ := List.cons.inj same
          obtain ⟨rfl, behind⟩ := ih (fun member => free (List.mem_cons_of_mem _ member))
            (fun member => freeOther (List.mem_cons_of_mem _ member)) tails
          exact ⟨rfl, behind⟩

/-- A decimal number ends at the first blank. -/
theorem number_before_blank {n m : Nat} {rest more : List Char}
    (same : (toString n).toList ++ ' ' :: rest = (toString m).toList ++ ' ' :: more) :
    n = m ∧ rest = more := by
  have noBlank (k : Nat) : ' ' ∉ (toString k).toList := by
    intro member
    rw [Nat.toString_eq_repr, Nat.toList_repr] at member
    exact absurd (Nat.isDigit_of_mem_toDigits (by decide) (by decide) member) (by decide)
  obtain ⟨digits, behind⟩ := split_at_first (noBlank n) (noBlank m) same
  rw [Nat.toString_eq_repr, Nat.toString_eq_repr, Nat.toList_repr, Nat.toList_repr] at digits
  refine ⟨?_, behind⟩
  calc n
    _ = Nat.ofDigitChars 10 (Nat.toDigits 10 n) 0 :=
        (Nat.ofDigitChars_toDigits (by decide) (by decide)).symm
    _ = Nat.ofDigitChars 10 (Nat.toDigits 10 m) 0 := by rw [digits]
    _ = m := Nat.ofDigitChars_toDigits (by decide) (by decide)

/-- The number behind `target=`, and the word that follows it. -/
theorem AnswersDone.fields {targetMbps : BitVec 32} {n : Nat} {word response : String}
    (done : AnswersDone targetMbps response)
    (begins : BeginsWith ("OK RATE_SET target=" ++ toString n ++ " " ++ word) response) :
    targetMbps.toNat = n ∧
      ∃ rest more : List Char, word.toList ++ rest = "current_rate=".toList ++ more := by
  obtain ⟨rest, rfl⟩ := begins
  obtain ⟨more, equal⟩ := done
  have lists := congrArg String.toList equal
  have blank : (" ".toList : List Char) = [' '] := rfl
  have field : (toString " current_rate=").toList = ' ' :: "current_rate=".toList := rfl
  simp only [String.toList_append, List.append_assoc, blank, field, List.cons_append,
    List.nil_append] at lists
  obtain ⟨number, tail⟩ := number_before_blank (List.append_cancel_left lists)
  exact ⟨number.symm, rest.toList, more.toList, tail⟩

theorem already_not_done (targetMbps other : BitVec 32) (rest : String) :
    ¬ AnswersDone targetMbps
      (s!"OK RATE_SET target={other.toNat} already_current_rate=1 " ++ rest) := by
  intro done
  have begins : BeginsWith ("OK RATE_SET target=" ++ toString other.toNat ++ " " ++
      "already_current_rate=1 ")
      (s!"OK RATE_SET target={other.toNat} already_current_rate=1 " ++ rest) := by
    refine BeginsWith.append ⟨"", ?_⟩ rest
    rw [String.append_empty, @String.append_assoc _ " "]
    rfl
  obtain ⟨_, _, _, wrong⟩ := done.fields begins
  exact absurd (List.cons.inj wrong).1 (by decide)

/-- The number an `OK` reports as its target is that of the command. -/
theorem AnswersDone.target {targetMbps commanded status : BitVec 32}
    (done : AnswersDone targetMbps (switchedAnswer commanded status)) :
    targetMbps = commanded ∧ anySet status laserGtStatusRateError = false ∧
      laserGtStatusRateState status ≠ laserRateStateError := by
  unfold switchedAnswer at done
  split at done
  · have failed := (failedAnswer_begins commanded (stateName status) (errorName status) status).append
      s!" raw=0x{status.toHex}"
    exact absurd done (error_not_done (beginsWith_trans ⟨"RROR RATE_SET_FAILED", rfl⟩ failed) _)
  · rename_i fine
    simp only [Bool.or_eq_true, decide_eq_true_eq, not_or, Bool.not_eq_true] at fine
    have begins : BeginsWith ("OK RATE_SET target=" ++ toString commanded.toNat ++ " " ++
        "current_rate=") (s!"OK RATE_SET target={commanded.toNat} current_rate=") := by
      refine ⟨"", ?_⟩
      rw [String.append_empty, @String.append_assoc _ " "]
      rfl
    have whole := (begins.append (toString (currentRateMbps status).toNat)).append " "
    exact ⟨BitVec.eq_of_toNat_eq (done.fields (whole.append _)).1, fine.1⟩

/-! ## Rate ids -/

/-- The id of a supported rate. -/
def rateIdOf (targetMbps : BitVec 32) : BitVec 2 := (laserRateIdFromMbps targetMbps).setWidth 2

theorem rate_of_id {targetMbps : BitVec 32}
    (supported : laserRateIdFromMbps targetMbps ≠ laserRateIdNone) :
    (rateIdOf targetMbps).setWidth 32 = laserRateIdFromMbps targetMbps ∧
      laserGtRateIdToMbps ((rateIdOf targetMbps).setWidth 32) = targetMbps := by
  unfold rateIdOf laserRateIdFromMbps at *
  split at supported
  · rename_i slow
    rw [if_pos slow, slow]
    decide
  · split at supported
    · rename_i notSlow fast
      rw [if_neg notSlow, if_pos fast, fast]
      decide
    · exact absurd rfl supported

end LaserTx.Firmware
