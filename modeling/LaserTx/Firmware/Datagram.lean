import LaserTx.Memory.Buffer
import LaserTx.Firmware.CommandForms

/-!
# From a datagram to the request

`laser_udp_recv` copies a chain of fragments into a fixed buffer and hands it over
as a C string.  What does not fit, and what follows a NUL, is not part of the
request.
-/

namespace LaserTx.Firmware

open Interaction.Program (run_bind)

abbrev Byte := BitVec 8

/-- One `struct pbuf` of a chain; `payload` points at `len` bytes. -/
structure Pbuf where
  payload : List Byte
  len : BitVec 16
  covers : len.toNat ≤ payload.length

def Pbuf.bytes (fragment : Pbuf) : List Byte := fragment.payload.take fragment.len.toNat

/-- The payload of a chain. -/
def payload (packet : List Pbuf) : List Byte := packet.flatMap Pbuf.bytes

/-! ## The copy -/

/-- The loop of `copy_udp_payload`, with `copied` and the buffer. -/
def copyFragments (size : BitVec 32) : List Pbuf → BitVec 32 → List Byte →
    Option (BitVec 32 × List Byte)
  | [], copied, buffer => some (copied, buffer)
  | fragment :: next, copied, buffer =>
      if copied + 1#32 < size then do
        let available := fragment.len.setWidth 32
        let fragmentLen :=
          if size - copied - 1#32 < available then size - copied - 1#32 else available
        let buffer ← Memory.memcpy buffer copied.toNat fragment.payload fragmentLen.toNat
        copyFragments size next (copied + fragmentLen) buffer
      else some (copied, buffer)

/-- `copy_udp_payload`; no result stands for an access outside a buffer. -/
def copyUdpPayload (packet : List Pbuf) (buffer : List Byte) (size : BitVec 32) :
    Option (List Byte) := do
  let (copied, buffer) ← copyFragments size packet 0#32 buffer
  Memory.write buffer copied.toNat [0#8]

/-- The bytes that fit in front of the terminator. -/
def keptBytes (size : BitVec 32) (packet : List Pbuf) : List Byte :=
  (payload packet).take (size.toNat - 1)

section Copy

variable {size copied : BitVec 32} {buffer : List Byte}

/-- One step of the copy takes what the buffer has room for. -/
theorem fragmentLen_toNat (fragment : Pbuf) (inside : copied.toNat < size.toNat) :
    (if size - copied - 1#32 < fragment.len.setWidth 32 then size - copied - 1#32
      else fragment.len.setWidth 32).toNat =
      min (size.toNat - 1 - copied.toNat) fragment.len.toNat := by
  have width : (fragment.len.setWidth 32).toNat = fragment.len.toNat := by
    rw [BitVec.toNat_setWidth]
    exact Nat.mod_eq_of_lt (by omega)
  have room : (size - copied - 1#32).toNat = size.toNat - 1 - copied.toNat := by bv_omega
  split
  · rename_i less
    rw [BitVec.lt_def, room, width] at less
    rw [room]
    omega
  · rename_i enough
    rw [BitVec.lt_def, room, width] at enough
    rw [width]
    omega

/-- What one step copies and what is left to copy is the front of the payload. -/
theorem payload_split (fragment : Pbuf) (next : List Pbuf) (room : Nat) :
    fragment.payload.take (min room fragment.len.toNat) ++
        (payload next).take (room - min room fragment.len.toNat) =
      (payload (fragment :: next)).take room := by
  have length : fragment.bytes.length = fragment.len.toNat :=
    List.length_take_of_le fragment.covers
  have chain : payload (fragment :: next) = fragment.bytes ++ payload next := List.flatMap_cons
  rw [chain, List.take_append, length, Pbuf.bytes, List.take_take]
  congr 2
  omega

/-- The loop writes the front of the remaining payload behind what is there. -/
theorem copyFragments_spec (packet : List Pbuf) (fits : size.toNat ≤ buffer.length)
    (inside : copied.toNat < size.toNat) :
    ∃ total, copyFragments size packet copied buffer =
        some (total, Memory.overwrite buffer copied.toNat
          ((payload packet).take (size.toNat - 1 - copied.toNat))) ∧
      total.toNat =
        copied.toNat + ((payload packet).take (size.toNat - 1 - copied.toNat)).length := by
  induction packet generalizing copied buffer with
  | nil =>
      have nothing : (payload []).take (size.toNat - 1 - copied.toNat) = [] := List.take_nil
      rw [nothing, Memory.overwrite_nil]
      exact ⟨copied, rfl, rfl⟩
  | cons fragment next ih =>
      unfold copyFragments
      by_cases room : copied + 1#32 < size
      · have length := fragmentLen_toNat fragment inside
        rw [if_pos room]
        dsimp only
        generalize (if size - copied - 1#32 < fragment.len.setWidth 32 then size - copied - 1#32
          else fragment.len.setWidth 32) = fragmentLen at length ⊢
        have covers := fragment.covers
        have available : fragmentLen.toNat ≤ fragment.payload.length := by omega
        have placed : copied.toNat + fragmentLen.toNat ≤ buffer.length := by omega
        have first : (fragment.payload.take fragmentLen.toNat).length = fragmentLen.toNat :=
          List.length_take_of_le available
        have advanced : (copied + fragmentLen).toNat = copied.toNat + fragmentLen.toNat := by
          rw [BitVec.toNat_add]
          exact Nat.mod_eq_of_lt (by omega)
        have written := Memory.length_overwrite (first.symm ▸ placed)
        obtain ⟨total, run, count⟩ := ih (fits.trans (Nat.le_of_eq written.symm))
          (by rw [advanced]; omega : (copied + fragmentLen).toNat < size.toNat)
        have left : size.toNat - 1 - (copied + fragmentLen).toNat =
            size.toNat - 1 - copied.toNat - fragmentLen.toNat := by rw [advanced]; omega
        have split := payload_split fragment next (size.toNat - 1 - copied.toNat)
        rw [← length, ← left] at split
        have joined := @Memory.overwrite_append _ buffer copied.toNat _
          ((payload next).take (size.toNat - 1 - (copied + fragmentLen).toNat))
          (first.symm ▸ placed)
        rw [first, split, ← advanced] at joined
        rw [Memory.memcpy_inside available placed]
        refine ⟨total, run.trans (by rw [joined]), ?_⟩
        rw [count, ← split, List.length_append, first, advanced, Nat.add_assoc]
      · have full : size.toNat - 1 - copied.toNat = 0 := by bv_omega
        rw [if_neg room, full, List.take_zero, Memory.overwrite_nil]
        exact ⟨copied, rfl, rfl⟩

/-- The buffer begins with the bytes that fit and a terminator, and is untouched behind it. -/
theorem copyUdpPayload_spec (packet : List Pbuf) (fits : size.toNat ≤ buffer.length)
    (room : 0 < size.toNat) :
    copyUdpPayload packet buffer size =
      some (Memory.overwrite buffer 0 (keptBytes size packet ++ [0#8])) := by
  have start : (0#32 : BitVec 32).toNat = 0 := rfl
  obtain ⟨total, run, count⟩ := copyFragments_spec packet fits (start.symm ▸ room)
  rw [start, Nat.sub_zero] at run count
  have kept : (keptBytes size packet).length ≤ size.toNat - 1 := List.length_take_le _ _
  have placed : 0 + (keptBytes size packet).length ≤ buffer.length := by omega
  have inside : total.toNat + 1 ≤ (Memory.overwrite buffer 0 (keptBytes size packet)).length := by
    rw [Memory.length_overwrite placed, count]
    change 0 + (keptBytes size packet).length + 1 ≤ _
    omega
  unfold copyUdpPayload
  rw [run]
  refine (Memory.write_inside inside).trans ?_
  rw [count]
  exact congrArg some (Memory.overwrite_append placed)

/-- The copy leaves the bytes of the payload that fit and one NUL.  It writes only below
`size`: it has a result when nothing lies behind the buffer, and keeps what does. -/
theorem copyUdpPayload_exact (packet : List Pbuf) (size : BitVec 32) (room : 1 ≤ size.toNat)
    (buffer beyond : List Byte) (cells : buffer.length = size.toNat) :
    copyUdpPayload packet (buffer ++ beyond) size =
      some ((payload packet).take (min (payload packet).length (size.toNat - 1)) ++
        0#8 :: buffer.drop (min (payload packet).length (size.toNat - 1) + 1) ++ beyond) := by
  have fits : size.toNat ≤ (buffer ++ beyond).length := by
    rw [List.length_append, cells]
    exact Nat.le_add_right _ _
  have kept : keptBytes size packet =
      (payload packet).take (min (payload packet).length (size.toNat - 1)) := by
    rw [keptBytes, Nat.min_comm, ← List.take_take, List.take_length]
  have available : min (payload packet).length (size.toNat - 1) ≤ (payload packet).length :=
    Nat.min_le_left _ _
  have inside : min (payload packet).length (size.toNat - 1) ≤ size.toNat - 1 :=
    Nat.min_le_right _ _
  rw [copyUdpPayload_spec packet fits room, Memory.overwrite_zero, kept]
  generalize min (payload packet).length (size.toNat - 1) = count at available inside ⊢
  have length : ((payload packet).take count ++ [0#8]).length = count + 1 := by
    rw [List.length_append, List.length_take_of_le available, List.length_singleton]
  have behind : count + 1 ≤ buffer.length := by omega
  rw [length, List.drop_append_of_le_length behind]
  simp only [List.append_assoc, List.cons_append, List.nil_append]

/-- The second fragment is empty, the third ends at the limit and the fourth is left out. -/
theorem copyUdpPayload_exact_limit :
    copyUdpPayload
        [⟨[0x50#8, 0x49#8], 2#16, Nat.le_refl 2⟩, ⟨[], 0#16, Nat.le_refl 0⟩,
          ⟨[0x4e#8, 0x47#8], 2#16, Nat.le_refl 2⟩, ⟨[0x21#8], 1#16, Nat.le_refl 1⟩]
        (List.replicate 5 0xff#8 ++ [0x7f#8]) 5#32 =
      some [0x50#8, 0x49#8, 0x4e#8, 0x47#8, 0#8, 0x7f#8] :=
  copyUdpPayload_exact _ 5#32 (by decide) (List.replicate 5 0xff#8) [0x7f#8] rfl

end Copy

/-! ## The request -/

def characters (bytes : List Byte) : Text := bytes.map fun byte => Char.ofNat byte.toNat

/-- The C string at the start of a buffer. -/
def cString (buffer : List Byte) : Text := characters (buffer.takeWhile (· != 0#8))

def laserUdpMaxPayload : BitVec 32 := 384#32

/-- The array `request` of `laser_udp_recv`, with whatever is on the stack. -/
structure RequestBuffer where
  bytes : List Byte
  length_eq : bytes.length = laserUdpMaxPayload.toNat

/-- `laser_udp_recv` with the GPIO shadow and the answer, if there is one. -/
def laserUdpRecv (base : BitVec 32) (gpio : LaserGpio) (request : RequestBuffer)
    (packet : List Pbuf) : Option (Program (LaserGpio × Option String)) :=
  if packet = [] then some (pure (gpio, none))
  else do
    let buffer ← copyUdpPayload packet request.bytes laserUdpMaxPayload
    some do
      let (gpio, response) ← handleUdpCommand base gpio (cString buffer)
      pure (gpio, some response)

/-- The text of the whole payload; a NUL as its last byte only ends it. -/
def wholeText (packet : List Pbuf) : Text :=
  if (payload packet).getLast? = some 0#8 then characters (payload packet).dropLast
  else characters (payload packet)

/-- The text that is left for the request. -/
def keptText (packet : List Pbuf) : Text :=
  characters ((keptBytes laserUdpMaxPayload packet).takeWhile (· != 0#8))

def droppedText (packet : List Pbuf) : Text := (wholeText packet).drop (keptText packet).length

/-- A datagram that has an effect is executed with the tokens of its whole payload. -/
def ExecutedWholeOrNotAtAll (packet : List Pbuf) : Prop :=
  ∀ base gpio request respond program, laserUdpRecv base gpio request packet = some program →
    ActsIn (program.run respond []).1 →
      ∃ buffer, copyUdpPayload packet request.bytes laserUdpMaxPayload = some buffer ∧
        tokens (cString buffer) = tokens (wholeText packet)

theorem cString_terminated (bytes rest : List Byte) :
    cString (bytes ++ 0#8 :: rest) = characters (bytes.takeWhile (· != 0#8)) := by
  unfold cString
  congr 1
  induction bytes with
  | nil => rfl
  | cons byte bytes ih =>
      cases stops : byte != 0#8 <;> simp [stops, ih]

/-- The buffer always holds the kept text. -/
theorem request_kept (request : RequestBuffer) (packet : List Pbuf) :
    ∃ buffer, copyUdpPayload packet request.bytes laserUdpMaxPayload = some buffer ∧
      cString buffer = keptText packet := by
  refine ⟨_, copyUdpPayload_spec packet (Nat.le_of_eq request.length_eq.symm) (by decide), ?_⟩
  rw [Memory.overwrite_zero, List.append_assoc]
  exact cString_terminated _ _

/-- The whole text is the kept text and what is dropped behind it. -/
theorem wholeText_split (packet : List Pbuf) :
    keptText packet ++ droppedText packet = wholeText packet := by
  have front : (keptBytes laserUdpMaxPayload packet).takeWhile (· != 0#8) <+: payload packet :=
    (List.takeWhile_prefix _).trans (List.take_prefix _ _)
  apply List.prefix_iff_eq_append.mp
  unfold keptText wholeText
  split
  · rename_i terminated
    obtain ⟨body, split⟩ := List.getLast?_eq_some_iff.mp terminated
    rw [split, List.dropLast_concat]
    refine List.IsPrefix.map _ ?_
    rcases List.prefix_concat_iff.mp (split ▸ front) with all | inside
    · have zero : 0#8 ∈ (keptBytes laserUdpMaxPayload packet).takeWhile (· != 0#8) := by
        rw [all]
        exact List.mem_append_right body List.mem_cons_self
      exact absurd (List.mem_takeWhile_imp zero) (by decide)
    · exact inside
  · exact front.map _

/-- The callback has the effects of the command on the kept text. -/
theorem laserUdpRecv_acts (base : BitVec 32) (gpio : LaserGpio) (request : RequestBuffer)
    (packet : List Pbuf) :
    ∃ program, laserUdpRecv base gpio request packet = some program ∧
      ∀ respond, ActsIn (program.run respond []).1 ↔
        ActsIn ((handleUdpCommand base gpio (keptText packet)).run respond []).1 := by
  unfold laserUdpRecv
  split
  · rename_i empty
    subst empty
    exact ⟨_, rfl, fun respond => Iff.rfl⟩
  · obtain ⟨buffer, copied, text⟩ := request_kept request packet
    rw [copied, ← text]
    refine ⟨_, rfl, fun respond => ?_⟩
    change ActsIn ((Interaction.Program.bind _ _).run respond []).1 ↔ _
    rw [run_bind]
    exact Iff.rfl

theorem executedWhole_iff_tokens (packet : List Pbuf) :
    ExecutedWholeOrNotAtAll packet ↔ (passesChecks (tokens (keptText packet)) = true →
      tokens (keptText packet) = tokens (wholeText packet)) := by
  constructor
  · intro whole passes
    let request : RequestBuffer := ⟨List.replicate 384 0#8, List.length_replicate⟩
    obtain ⟨program, received, effects⟩ := laserUdpRecv_acts 0#32 ⟨0#32⟩ request packet
    have acts := (handleUdpCommand_decided 0#32 ⟨0#32⟩ (keptText packet)).acts passes []
    obtain ⟨buffer, copied, same⟩ :=
      whole _ _ request readyBoard program received ((effects readyBoard).mpr acts)
    obtain ⟨kept, again, text⟩ := request_kept request packet
    cases copied.symm.trans again
    rw [← text, same]
  · intro same base gpio request respond program received acts
    obtain ⟨known, found, effects⟩ := laserUdpRecv_acts base gpio request packet
    cases received.symm.trans found
    obtain ⟨buffer, copied, text⟩ := request_kept request packet
    refine ⟨buffer, copied, ?_⟩
    rw [text]
    have decided := handleUdpCommand_decided base gpio (keptText packet)
    cases passes : passesChecks (tokens (keptText packet)) with
    | true => exact same passes
    | false => exact absurd ((effects respond).mp acts) ((passes ▸ decided).idle respond)

/-- A datagram is executed whole exactly if what is dropped only separates, or what is kept
does not pass. -/
theorem executedWhole_iff (packet : List Pbuf) :
    ExecutedWholeOrNotAtAll packet ↔
      (∀ letter ∈ droppedText packet, isSeparator letter = true) ∨
        passesChecks (tokens (keptText packet)) = false := by
  have same : tokens (keptText packet) = tokens (wholeText packet) ↔
      ∀ letter ∈ droppedText packet, isSeparator letter = true := by
    rw [← wholeText_split packet]
    exact eq_comm.trans (Lexical.fields_append_eq_iff _ _)
  rw [executedWhole_iff_tokens, same]
  cases passesChecks (tokens (keptText packet)) <;> simp

def textBytes (text : String) : List Byte := text.toList.map fun c => BitVec.ofNat 8 c.toNat

/-- A request for 5000 Mbps that is one byte too long, in two fragments. -/
def cutRate : List Pbuf :=
  [{ payload := List.replicate 371 0x20#8
     len := 371#16
     covers := Nat.le_of_eq List.length_replicate.symm },
   { payload := textBytes "RATE SET 5000"
     len := 13#16
     covers := by decide }]

/-- A NUL with a further letter behind a complete command. -/
def splitWord : Pbuf where
  payload := textBytes "ENABLE" ++ 0#8 :: textBytes "D"
  len := 8#16
  covers := by decide

/-- The rate is cut to 500 and switched to, and the word in front of the NUL is executed. -/
theorem shortened_executed :
    (tokens (keptText cutRate) = ["RATE".toList, "SET".toList, "500".toList] ∧
      tokens (wholeText cutRate) = ["RATE".toList, "SET".toList, "5000".toList] ∧
      ¬ ExecutedWholeOrNotAtAll cutRate) ∧
      ¬ ExecutedWholeOrNotAtAll [splitWord] := by
  have kept : tokens (keptText cutRate) = ["RATE".toList, "SET".toList, "500".toList] := by
    decide +kernel
  have whole : tokens (wholeText cutRate) = ["RATE".toList, "SET".toList, "5000".toList] := by
    decide +kernel
  refine ⟨⟨kept, whole, ?_⟩, ?_⟩
  · rw [executedWhole_iff_tokens, kept, whole]
    decide
  · rw [executedWhole_iff_tokens]
    decide +kernel

end LaserTx.Firmware
