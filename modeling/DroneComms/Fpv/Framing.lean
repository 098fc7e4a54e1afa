import DroneComms.Fpv.Frame
import DroneComms.Lib.Resync
import DroneComms.Lib.Automaton

/-!
# Framing

`extract_frames` is a scanner that resynchronises: what it does with the front
of the buffer is decided by the bytes of one candidate, and it waits if they are
not all there.  So the frames of a stream do not depend on its chunks, frames
that were sent come out as they were sent, and garbage is passed over byte by
byte up to the next frame.
-/

namespace DroneComms.Fpv

open Py (PyError)

/-! ## Bytes of a frame -/

theorem byte_eq_ok {n : ℤ} {b : UInt8} : byte n = .ok b ↔ n = b.toNat := by
  have hlt := b.toNat_lt
  constructor
  · intro h
    unfold byte at h
    split_ifs at h with hn
    cases h
    have hb : (UInt8.ofNat n.toNat).toNat = n.toNat :=
      UInt8.toNat_ofNat_of_lt (by change _ < 256; omega)
    rw [hb, Int.toNat_of_nonneg hn.1]
  · rintro rfl
    rw [byte, if_pos ⟨by omega, by omega⟩, Int.toNat_natCast, UInt8.ofNat_toNat]

/-- A number in the range of a byte is one. -/
theorem exists_byte {n : ℤ} (h0 : 0 ≤ n) (h : n < 256) : ∃ b : UInt8, n = b.toNat :=
  ⟨_, byte_eq_ok.mp (if_pos ⟨h0, h⟩)⟩

namespace CrsfFrame

/-- The bytes of a frame behind its address and its length. -/
def tail (ftype : UInt8) (payload : List UInt8) : List UInt8 :=
  ftype :: (payload ++ [crc8DvbS2 (ftype :: payload)])

theorem length_tail (ftype : UInt8) (payload : List UInt8) :
    (tail ftype payload).length = payload.length + 2 := by
  rw [tail, List.length_cons, List.length_append, List.length_singleton]

/-- `from_bytes` on a frame whose length byte fits: the checksum decides. -/
theorem fromBytes_concat {addr length ftype crc : UInt8} {payload : List UInt8}
    (hlength : length.toNat = payload.length + 2) :
    fromBytes (addr :: length :: ftype :: (payload ++ [crc])) =
      let actual := crc8DvbS2 (ftype :: payload)
      if actual ≠ crc then .error (.crc s!"crc mismatch: got 0x{hex actual}, want 0x{hex crc}")
      else .ok { addr := addr.toNat, type := ftype.toNat, payload } := by
  obtain ⟨b, rest, hrest⟩ : ∃ b rest, payload ++ [crc] = b :: rest :=
    List.exists_cons_of_ne_nil (List.append_ne_nil_of_right_ne_nil _ (List.cons_ne_nil _ _))
  have hlen : rest.length = payload.length := by
    have := congrArg List.length hrest
    rw [List.length_append, List.length_singleton, List.length_cons] at this
    omega
  have hdrop : (b :: rest).dropLast = payload := by rw [← hrest, List.dropLast_concat]
  have hlast : (b :: rest).getLast (List.cons_ne_nil b rest) = crc := by
    simp only [← hrest, List.getLast_append_singleton]
  rw [hrest, fromBytes]
  dsimp only
  rw [if_neg (by simp only [List.length_cons]; omega), hdrop, hlast]

/-- What `from_bytes` accepts. -/
theorem fromBytes_eq_ok {data : List UInt8} {f : CrsfFrame} : fromBytes data = .ok f ↔
    ∃ addr length ftype : UInt8, data = addr :: length :: tail ftype f.payload ∧
      length.toNat = f.payload.length + 2 ∧ f.addr = addr.toNat ∧ f.type = ftype.toNat := by
  constructor
  · intro h
    unfold fromBytes at h
    split at h
    · rename_i addr length ftype b rest
      dsimp only at h
      split_ifs at h with htotal hcrc
      cases h
      rw [not_not] at htotal hcrc
      refine ⟨addr, length, ftype, ?_, ?_, rfl, rfl⟩
      · rw [tail, hcrc, List.dropLast_append_getLast]
      · rw [List.length_dropLast]
        simp only [List.length_cons] at htotal ⊢
        omega
    · cases h
  · rintro ⟨addr, length, ftype, rfl, hlength, haddr, htype⟩
    obtain ⟨faddr, ftype', payload⟩ := f
    dsimp only at hlength haddr htype ⊢
    rw [tail, fromBytes_concat hlength, if_neg (not_not.mpr rfl), haddr, htype]

/-- What `to_bytes` writes. -/
theorem toBytes_eq_ok {f : CrsfFrame} {data : List UInt8} : f.toBytes = .ok data ↔
    ∃ addr length ftype : UInt8, data = addr :: length :: tail ftype f.payload ∧
      length.toNat = f.payload.length + 2 ∧ f.addr = addr.toNat ∧ f.type = ftype.toNat := by
  rw [toBytes]
  constructor
  · intro h
    obtain ⟨ftype, htype, h⟩ := Py.bind_eq_ok.mp h
    obtain ⟨addr, haddr, h⟩ := Py.bind_eq_ok.mp h
    obtain ⟨length, hlength, h⟩ := Py.bind_eq_ok.mp h
    cases h
    have hnum := byte_eq_ok.mp hlength
    rw [List.length_cons] at hnum
    exact ⟨addr, length, ftype, rfl, by omega, byte_eq_ok.mp haddr, byte_eq_ok.mp htype⟩
  · rintro ⟨addr, length, ftype, rfl, hlength, haddr, htype⟩
    refine Py.bind_eq_ok.mpr ⟨ftype, byte_eq_ok.mpr htype, ?_⟩
    refine Py.bind_eq_ok.mpr ⟨addr, byte_eq_ok.mpr haddr, ?_⟩
    refine Py.bind_eq_ok.mpr ⟨length, byte_eq_ok.mpr ?_, rfl⟩
    rw [List.length_cons]
    omega

/-- Both directions of the codec describe the same bytes. -/
theorem toBytes_iff_fromBytes {f : CrsfFrame} {data : List UInt8} :
    f.toBytes = .ok data ↔ fromBytes data = .ok f := by
  rw [toBytes_eq_ok, fromBytes_eq_ok]

/-- A frame with a byte for each field has bytes. -/
theorem exists_toBytes {f : CrsfFrame} (haddr : 0 ≤ f.addr ∧ f.addr < 256)
    (htype : 0 ≤ f.type ∧ f.type < 256) (hpayload : f.payload.length ≤ 253) :
    ∃ data, f.toBytes = .ok data := by
  obtain ⟨addr, haddr⟩ := exists_byte haddr.1 haddr.2
  obtain ⟨ftype, htype⟩ := exists_byte htype.1 htype.2
  obtain ⟨length, hlength⟩ := exists_byte (n := f.payload.length + 2) (by omega) (by omega)
  exact ⟨_, toBytes_eq_ok.mpr ⟨addr, length, ftype, rfl, by omega, haddr, htype⟩⟩

theorem length_of_fromBytes {data : List UInt8} {f : CrsfFrame} (h : fromBytes data = .ok f) :
    data.length = f.payload.length + 4 := by
  obtain ⟨addr, length, ftype, rfl, -, -, -⟩ := fromBytes_eq_ok.mp h
  rw [List.length_cons, List.length_cons, length_tail]

end CrsfFrame

/-! ## The scanner -/

/-- What an iteration makes of the bytes it deletes. -/
inductive Piece where
  | skipped
  | crcError
  | frame (f : CrsfFrame)

/-- What a candidate turns out to be, and how much of it is deleted. -/
def judge (candidate : List UInt8) : ℕ × Piece :=
  match CrsfFrame.fromBytes candidate with
  | .ok frame => (candidate.length, .frame frame)
  | .error (.crc _) => (1, .crcError)
  | .error (.value _) => (1, .skipped)

/-- The decision of the loop on the front of the buffer. -/
def look (maxFrameLen : ℤ) (sync : Finset ℤ) (buffer : List UInt8) : Option (ℕ × Piece) :=
  match buffer with
  | addr :: length :: _ :: _ :: _ =>
      if (addr.toNat : ℤ) ∉ sync then some (1, .skipped)
      else
        let total := length.toNat + 2
        if length.toNat < 2 ∨ maxFrameLen < total then some (1, .skipped)
        else if buffer.length < total then none
        else some (judge (buffer.take total))
  | _ => none

section

variable {maxFrameLen : ℤ} {sync : Finset ℤ}

/-- A buffer whose head cannot start a frame. -/
theorem look_skip {addr length a b : UInt8} {rest : List UInt8}
    (h : (addr.toNat : ℤ) ∉ sync ∨ length.toNat < 2 ∨ maxFrameLen < (length.toNat + 2 : ℕ)) :
    look maxFrameLen sync (addr :: length :: a :: b :: rest) = some (1, .skipped) := by
  rw [look]
  by_cases haddr : (addr.toNat : ℤ) ∉ sync
  · rw [if_pos haddr]
  · rw [if_neg haddr]
    exact if_pos (h.resolve_left haddr)

/-- A head that can start a frame. -/
structure Plausible (maxFrameLen : ℤ) (sync : Finset ℤ) (addr length : UInt8) : Prop where
  sync : (addr.toNat : ℤ) ∈ sync
  two_le : 2 ≤ length.toNat
  total_le : (length.toNat + 2 : ℕ) ≤ maxFrameLen

theorem look_head {addr length a b : UInt8} {rest : List UInt8}
    (h : Plausible maxFrameLen sync addr length) :
    look maxFrameLen sync (addr :: length :: a :: b :: rest) =
      if (addr :: length :: a :: b :: rest).length < length.toNat + 2 then none
      else some (judge ((addr :: length :: a :: b :: rest).take (length.toNat + 2))) := by
  have htwo := h.two_le
  have htotal := h.total_le
  rw [look, if_neg (not_not.mpr h.sync)]
  exact if_neg (by omega)

/-- A buffer is too short, or its head can start no frame, or it can. -/
theorem look_cases (maxFrameLen : ℤ) (sync : Finset ℤ) (buffer : List UInt8) :
    buffer.length < overhead ∧ look maxFrameLen sync buffer = none ∨
      ∃ addr length a b rest, buffer = addr :: length :: a :: b :: rest ∧
        (Plausible maxFrameLen sync addr length ∨
          ((addr.toNat : ℤ) ∉ sync ∨ length.toNat < 2 ∨
            maxFrameLen < (length.toNat + 2 : ℕ))) := by
  rcases buffer with _ | ⟨addr, _ | ⟨length, _ | ⟨a, _ | ⟨b, rest⟩⟩⟩⟩
  · exact .inl ⟨by decide, rfl⟩
  · exact .inl ⟨by simp [overhead], rfl⟩
  · exact .inl ⟨by simp [overhead], rfl⟩
  · exact .inl ⟨by simp [overhead], rfl⟩
  · refine .inr ⟨addr, length, a, b, rest, rfl, ?_⟩
    by_cases haddr : (addr.toNat : ℤ) ∈ sync
    · by_cases hlength : length.toNat < 2 ∨ maxFrameLen < (length.toNat + 2 : ℕ)
      · exact .inr (.inr hlength)
      · obtain ⟨htwo, htotal⟩ := not_or.mp hlength
        exact .inl ⟨haddr, not_lt.mp htwo, not_lt.mp htotal⟩
    · exact .inr (.inl haddr)

/-- A decision consumes one byte, or a candidate that is all there. -/
theorem look_eq_some {buffer : List UInt8} {n : ℕ} {t : Piece}
    (h : look maxFrameLen sync buffer = some (n, t)) :
    overhead ≤ buffer.length ∧ (n = 1 ∧ (t = .skipped ∨ t = .crcError) ∨
      overhead ≤ n ∧ n ≤ buffer.length ∧
        ∃ f, t = .frame f ∧ CrsfFrame.fromBytes (buffer.take n) = .ok f) := by
  rcases look_cases maxFrameLen sync buffer with ⟨-, hnone⟩ |
    ⟨addr, length, a, b, rest, rfl, hhead | hskip⟩
  · rw [hnone] at h
    cases h
  · refine ⟨by simp [overhead], ?_⟩
    rw [look_head hhead] at h
    split_ifs at h with hlength
    rw [not_lt] at hlength
    have hn := Option.some.inj h
    unfold judge at hn
    split at hn
    · rename_i f hf
      cases hn
      have htwo := hhead.two_le
      have htake := List.length_take_of_le hlength
      rw [htake]
      exact .inr ⟨by rw [overhead]; omega, hlength, f, rfl, hf⟩
    · cases hn
      exact .inl ⟨rfl, .inr rfl⟩
    · cases hn
      exact .inl ⟨rfl, .inl rfl⟩
  · refine ⟨by simp [overhead], ?_⟩
    rw [look_skip hskip] at h
    cases h
    exact .inl ⟨rfl, .inl rfl⟩

/-- A decision stands whatever comes behind the bytes it was made on. -/
theorem look_append {buffer : List UInt8} {n : ℕ} {t : Piece} (more : List UInt8)
    (h : look maxFrameLen sync buffer = some (n, t)) :
    look maxFrameLen sync (buffer ++ more) = some (n, t) := by
  rcases look_cases maxFrameLen sync buffer with ⟨-, hnone⟩ |
    ⟨addr, length, a, b, rest, rfl, hhead | hskip⟩
  · rw [hnone] at h
    cases h
  · rw [look_head hhead] at h
    simp only [List.cons_append]
    rw [look_head hhead]
    split_ifs at h with hlength
    have hlong := not_lt.mp hlength
    have htake : (addr :: length :: a :: b :: (rest ++ more)).take (length.toNat + 2) =
        (addr :: length :: a :: b :: rest).take (length.toNat + 2) :=
      List.take_append_of_le_length hlong
    rw [if_neg ?_, htake]
    · exact h
    · simp only [List.length_cons, List.length_append] at hlong ⊢
      omega
  · rw [look_skip hskip] at h
    simp only [List.cons_append]
    rw [look_skip hskip]
    exact h

/-- The loop of `extract_frames` as a scanner. -/
def crsfScanner (maxFrameLen : ℤ) (sync : Finset ℤ) : Resync.Scanner UInt8 Piece where
  head := look maxFrameLen sync
  pos h := by
    rcases (look_eq_some h).2 with ⟨rfl, -⟩ | ⟨hn, -⟩
    · exact Nat.one_pos
    · exact lt_of_lt_of_le (by decide) hn
  le_length h := by
    obtain ⟨hlength, ⟨rfl, -⟩ | ⟨-, hn, -⟩⟩ := look_eq_some h
    · exact le_trans (by decide) hlength
    · exact hn
  stable := look_append

/-- A frame at the front is taken off. -/
theorem look_frame {data : List UInt8} {f : CrsfFrame} (hf : CrsfFrame.fromBytes data = .ok f)
    (haddr : f.addr ∈ sync) (hlength : (data.length : ℤ) ≤ maxFrameLen) (more : List UInt8) :
    look maxFrameLen sync (data ++ more) = some (data.length, .frame f) := by
  have htotal := CrsfFrame.length_of_fromBytes hf
  obtain ⟨addr, length, ftype, hdata, hlen, haddr', -⟩ := CrsfFrame.fromBytes_eq_ok.mp hf
  obtain ⟨b, rest, hrest⟩ : ∃ b rest, f.payload ++ [crc8DvbS2 (ftype :: f.payload)] = b :: rest :=
    List.exists_cons_of_ne_nil (List.append_ne_nil_of_right_ne_nil _ (List.cons_ne_nil _ _))
  rw [CrsfFrame.tail, hrest] at hdata
  have hhead : Plausible maxFrameLen sync addr length :=
    ⟨by rwa [← haddr'], by omega, by omega⟩
  have htotal' : length.toNat + 2 = data.length := by omega
  apply look_append
  rw [hdata, look_head hhead, ← hdata, htotal', if_neg (lt_irrefl _), List.take_length,
    judge, hf]

/-! ## The loop -/

namespace Piece

def frame? : Piece → Option CrsfFrame
  | frame f => some f
  | skipped | crcError => none

def isCrcError : Piece → Bool
  | crcError => true
  | skipped | frame _ => false

end Piece

/-- An extraction that has deleted the pieces. -/
def drained (ps : List (List UInt8 × Piece)) (rest : List UInt8) : Extraction where
  buffer := rest
  frames := ps.filterMap fun p ↦ p.2.frame?
  crcErrors := ps.countP fun p ↦ p.2.isCrcError
  deleted := ps.map Prod.fst

/-- The extraction after an iteration that deleted a piece of `n` bytes. -/
def Extraction.deletePiece (x : Extraction) (n : ℕ) (t : Piece) : Extraction :=
  { x.del n with
    frames := x.frames ++ t.frame?.toList
    crcErrors := x.crcErrors + t.isCrcError.toNat }

/-- An iteration does what the scanner decides. -/
theorem extractStep_eq (x : Extraction) : extractStep maxFrameLen sync x =
    (look maxFrameLen sync x.buffer).map fun d ↦ x.deletePiece d.1 d.2 := by
  obtain ⟨bs, frames, crcErrors, deleted⟩ := x
  have hskip : ∀ y : Extraction, y.deletePiece 1 .skipped = y.del 1 := by
    intro y
    rw [Extraction.deletePiece, Piece.frame?, Option.toList_none, List.append_nil]
    rfl
  have hcrc : ∀ y : Extraction, y.deletePiece 1 .crcError =
      { y.del 1 with crcErrors := y.crcErrors + 1 } := by
    intro y
    rw [Extraction.deletePiece, Piece.frame?, Option.toList_none, List.append_nil]
    rfl
  rcases bs with _ | ⟨addr, _ | ⟨length, _ | ⟨a, _ | ⟨b, rest⟩⟩⟩⟩
  · rfl
  · rfl
  · rfl
  · rfl
  · simp only [extractStep, look, judge]
    by_cases haddr : (addr.toNat : ℤ) ∈ sync
    · by_cases htotal : length.toNat < 2 ∨ maxFrameLen < (length.toNat + 2 : ℕ)
      · simp only [haddr, htotal, not_true, if_false, if_true, Option.map_some, hskip]
      by_cases hlength : (addr :: length :: a :: b :: rest).length < length.toNat + 2
      · simp only [haddr, htotal, hlength, not_true, if_false, if_true, Option.map_none]
      have htake := List.length_take_of_le (not_lt.mp hlength)
      simp only [haddr, htotal, hlength, not_true, if_false, htake, Option.map_some]
      cases CrsfFrame.fromBytes ((addr :: length :: a :: b :: rest).take (length.toNat + 2)) with
      | ok f => rfl
      | error e =>
          cases e with
          | crc message => exact congrArg some (hcrc _).symm
          | value message => exact congrArg some (hskip _).symm
    · simp only [haddr, not_false_eq_true, if_true, Option.map_some, hskip]

theorem deletePiece_drained (ps : List (List UInt8 × Piece)) (bs : List UInt8) (n : ℕ) (t : Piece) :
    (drained ps bs).deletePiece n t = drained (ps ++ [(bs.take n, t)]) (bs.drop n) := by
  cases t <;>
    simp only [drained, Extraction.deletePiece, Extraction.del, Piece.frame?, Piece.isCrcError,
      List.filterMap_append, List.map_append, List.countP_append, List.filterMap_cons,
      List.filterMap_nil, List.countP_singleton, List.map_cons, List.map_nil, Option.toList_none,
      Option.toList_some, Bool.toNat_true, Bool.toNat_false, if_true, Bool.false_eq_true, if_false]

theorem extractStep_drained (ps : List (List UInt8 × Piece)) (bs : List UInt8) :
    extractStep maxFrameLen sync (drained ps bs) =
      (look maxFrameLen sync bs).map fun d ↦
        drained (ps ++ [(bs.take d.1, d.2)]) (bs.drop d.1) := by
  rw [extractStep_eq]
  simp only [deletePiece_drained]
  rfl

open Resync (Drains)

/-- The loop drains the buffer. -/
theorem extractLoop_drained {fuel : ℕ} {bs rest : List UInt8} {qs : List (List UInt8 × Piece)}
    (h : Drains (crsfScanner maxFrameLen sync) bs qs rest) (hfuel : qs.length ≤ fuel)
    (ps : List (List UInt8 × Piece)) :
    extractLoop maxFrameLen sync fuel (drained ps bs) = drained (ps ++ qs) rest := by
  induction h generalizing fuel ps with
  | @wait bs hhead =>
      have hhead' : look maxFrameLen sync bs = none := hhead
      cases fuel with
      | zero => rw [extractLoop, List.append_nil]
      | succ fuel =>
          rw [extractLoop, extractStep_drained, hhead', Option.map_none, List.append_nil]
  | @take piece t bs qs rest hhead _ ih =>
      have hhead' : look maxFrameLen sync (piece ++ bs) = some (piece.length, t) := hhead
      cases fuel with
      | zero => exact absurd hfuel (Nat.not_succ_le_zero _)
      | succ fuel =>
          rw [extractLoop, extractStep_drained, hhead', Option.map_some]
          dsimp only
          rw [List.take_left, List.drop_left, ih (Nat.le_of_succ_le_succ hfuel),
            List.append_assoc, List.singleton_append]

theorem extractFrames_eq {bs rest : List UInt8} {ps : List (List UInt8 × Piece)}
    (h : Drains (crsfScanner maxFrameLen sync) bs ps rest) :
    extractFrames maxFrameLen sync bs = drained ps rest :=
  extractLoop_drained h (le_trans (Nat.le_add_right _ _) h.length_le) []

/-- The loop ends after at most one iteration for each byte. -/
theorem extractStep_iterate {bs rest : List UInt8} {qs : List (List UInt8 × Piece)}
    (h : Drains (crsfScanner maxFrameLen sync) bs qs rest) (ps : List (List UInt8 × Piece)) :
    Automaton.exec (fun x (_ : Unit) ↦ extractStep maxFrameLen sync x) (drained ps bs)
      (List.replicate qs.length ()) = some (drained (ps ++ qs) rest) := by
  induction h generalizing ps with
  | wait _ => rw [List.append_nil]; rfl
  | @take piece t bs qs rest hhead _ ih =>
      have hhead' : look maxFrameLen sync (piece ++ bs) = some (piece.length, t) := hhead
      rw [List.length_cons, List.replicate_succ, Automaton.exec_cons, extractStep_drained, hhead',
        Option.map_some, Option.bind_some]
      dsimp only
      rw [List.take_left, List.drop_left, ih, List.append_assoc, List.singleton_append]

/-- Feeding a chunk drains what was left with the chunk behind it. -/
theorem feed_extractFrames (maxFrameLen : ℤ) (sync : Finset ℤ) (bs chunk : List UInt8) :
    (extractFrames maxFrameLen sync bs).feed maxFrameLen sync chunk =
      extractFrames maxFrameLen sync (bs ++ chunk) := by
  obtain ⟨ps, rest, hps⟩ := Drains.exists_drains (crsfScanner maxFrameLen sync) bs
  obtain ⟨qs, rest', hqs⟩ := Drains.exists_drains (crsfScanner maxFrameLen sync) (rest ++ chunk)
  rw [extractFrames_eq hps, extractFrames_eq (hps.append hqs), Extraction.feed]
  dsimp only [drained]
  rw [extractFrames_eq hqs]
  simp only [drained, List.filterMap_append, List.countP_append, List.map_append]

theorem foldl_feed (bs : List UInt8) (chunks : List (List UInt8)) :
    chunks.foldl (Extraction.feed maxFrameLen sync) (extractFrames maxFrameLen sync bs) =
      extractFrames maxFrameLen sync (bs ++ chunks.flatten) := by
  induction chunks generalizing bs with
  | nil => rw [List.flatten_nil, List.append_nil]; rfl
  | cons chunk chunks ih =>
      rw [List.foldl_cons, feed_extractFrames, ih, List.flatten_cons, List.append_assoc]

/-- A deleted slice is a frame, or it is one byte that is none. -/
theorem frame?_of_drains {bs rest : List UInt8} {ps : List (List UInt8 × Piece)}
    (h : Drains (crsfScanner maxFrameLen sync) bs ps rest) :
    ∀ p ∈ ps, p.2.frame? = (CrsfFrame.fromBytes p.1).toOption := by
  induction h with
  | wait _ => exact List.forall_mem_nil _
  | @take piece t bs ps rest hhead _ ih =>
      refine List.forall_mem_cons.mpr ⟨?_, ih⟩
      have hhead' : look maxFrameLen sync (piece ++ bs) = some (piece.length, t) := hhead
      rcases (look_eq_some hhead').2 with ⟨hone, ht⟩ | ⟨-, -, f, rfl, hf⟩
      · have hshort : (CrsfFrame.fromBytes piece).toOption = none := by
          cases hparse : CrsfFrame.fromBytes piece with
          | error e => rfl
          | ok f =>
              have hlength := CrsfFrame.length_of_fromBytes hparse
              omega
        rw [hshort]
        rcases ht with rfl | rfl
        · rfl
        · rfl
      · rw [List.take_left] at hf
        rw [hf]
        rfl

/-- A frame that comes out was in the stream. -/
theorem exists_fromBytes (maxFrameLen : ℤ) (sync : Finset ℤ) (bs : List UInt8) :
    ∀ f ∈ (extractFrames maxFrameLen sync bs).frames,
      ∃ data, CrsfFrame.fromBytes data = .ok f := by
  intro f hf
  obtain ⟨ps, rest, hps⟩ := Drains.exists_drains (crsfScanner maxFrameLen sync) bs
  rw [extractFrames_eq hps] at hf
  obtain ⟨p, hp, hpf⟩ := List.mem_filterMap.mp hf
  rw [frame?_of_drains hps p hp] at hpf
  exact ⟨p.1, Py.toOption_eq_some.mp hpf⟩

end

/-! ## Chunks -/

open Resync (Drains)

/-- **Chunking.**  However a stream is cut into chunks, the calls return together what one
call on the stream does; every call ends, and every byte is deleted once or left. -/
theorem feed_chunks (maxFrameLen : ℤ) (sync : Finset ℤ) (chunks : List (List UInt8)) :
    chunks.foldl (Extraction.feed maxFrameLen sync) { buffer := [] } =
        extractFrames maxFrameLen sync chunks.flatten ∧
      (∀ buffer, ∃ n ≤ buffer.length,
        Automaton.exec (fun x (_ : Unit) ↦ extractStep maxFrameLen sync x) { buffer }
            (List.replicate n ()) = some (extractFrames maxFrameLen sync buffer) ∧
          extractStep maxFrameLen sync (extractFrames maxFrameLen sync buffer) = none) ∧
      (extractFrames maxFrameLen sync chunks.flatten).deleted.flatten ++
          (extractFrames maxFrameLen sync chunks.flatten).buffer = chunks.flatten ∧
      (extractFrames maxFrameLen sync chunks.flatten).frames =
        (extractFrames maxFrameLen sync chunks.flatten).deleted.filterMap fun slice ↦
          (CrsfFrame.fromBytes slice).toOption := by
  obtain ⟨ps, rest, hps⟩ :=
    Drains.exists_drains (crsfScanner maxFrameLen sync) chunks.flatten
  rw [extractFrames_eq hps]
  refine ⟨?_, fun buffer ↦ ?_, ?_, ?_⟩
  · rw [← extractFrames_eq hps]
    exact foldl_feed [] chunks
  · obtain ⟨qs, rest', hqs⟩ := Drains.exists_drains (crsfScanner maxFrameLen sync) buffer
    have hend : look maxFrameLen sync rest' = none := hqs.head_rest
    refine ⟨qs.length, le_trans (Nat.le_add_right _ _) hqs.length_le, ?_, ?_⟩
    · rw [extractFrames_eq hqs]
      exact extractStep_iterate hqs []
    · rw [extractFrames_eq hqs, extractStep_drained, hend, Option.map_none]
  · exact hps.flatten
  · rw [drained, List.filterMap_map]
    exact List.filterMap_congr (frame?_of_drains hps)

/-! ## Frames that were sent -/

/-- A frame that a link with these settings sends. -/
structure Sendable (maxFrameLen : ℤ) (sync : Finset ℤ) (f : CrsfFrame) : Prop where
  addr : f.addr ∈ sync
  type : 0 ≤ f.type ∧ f.type < 256
  payload : (f.payload.length : ℤ) ≤ maxFrameLen - 4

/-- The bytes of frames drain into the frames. -/
theorem drains_frames {maxFrameLen : ℤ} {sync : Finset ℤ} {ws : List (List UInt8 × CrsfFrame)}
    (h : ∀ w ∈ ws, CrsfFrame.fromBytes w.1 = .ok w.2 ∧ w.2.addr ∈ sync ∧
      (w.1.length : ℤ) ≤ maxFrameLen) :
    Drains (crsfScanner maxFrameLen sync) (ws.map Prod.fst).flatten
      (ws.map fun w ↦ (w.1, .frame w.2)) [] := by
  have hwhole : ∀ p ∈ ws.map fun w ↦ (w.1, Piece.frame w.2), ∀ more,
      look maxFrameLen sync (p.1 ++ more) = some (p.1.length, p.2) := by
    intro p hp more
    obtain ⟨w, hw, rfl⟩ := List.mem_map.mp hp
    obtain ⟨hparse, haddr, hlength⟩ := h w hw
    exact look_frame hparse haddr hlength more
  have hdrains := Drains.of_pieces _ hwhole (.wait (crsfScanner maxFrameLen sync).head_nil)
  simp only [List.map_map, List.append_nil] at hdrains
  exact hdrains

theorem drained_frames (ws : List (List UInt8 × CrsfFrame)) :
    (drained (ws.map fun w ↦ (w.1, Piece.frame w.2)) []).frames = ws.map Prod.snd ∧
      (drained (ws.map fun w ↦ (w.1, Piece.frame w.2)) []).crcErrors = 0 := by
  constructor
  · rw [drained, List.filterMap_map]
    exact congrFun List.filterMap_eq_map ws
  · rw [drained, List.countP_map, List.countP_eq_zero]
    intro w _ hw
    cases hw

/-- **Round trip.**  The bytes of a list of frames are drained into the list, and what
`from_bytes` accepts is what `to_bytes` writes. -/
theorem frames_round_trip (maxFrameLen : ℤ) (sync : Finset ℤ) (hmax : 4 ≤ maxFrameLen)
    (hmax' : maxFrameLen ≤ 257) (hsync : ∀ a ∈ sync, 0 ≤ a ∧ a < 256) :
    (∀ frames, (∀ f ∈ frames, Sendable maxFrameLen sync f) →
      ∃ wires, frames.mapM CrsfFrame.toBytes = .ok wires ∧
        (extractFrames maxFrameLen sync wires.flatten).frames = frames ∧
          (extractFrames maxFrameLen sync wires.flatten).buffer = [] ∧
            (extractFrames maxFrameLen sync wires.flatten).crcErrors = 0) ∧
      ∀ data f, CrsfFrame.fromBytes data = .ok f → f.toBytes = .ok data := by
  refine ⟨fun frames hframes ↦ ?_, fun data f ↦ CrsfFrame.toBytes_iff_fromBytes.mpr⟩
  have hwires : ∃ ws : List (List UInt8 × CrsfFrame), ws.map Prod.snd = frames ∧
      frames.mapM CrsfFrame.toBytes = .ok (ws.map Prod.fst) ∧
        ∀ w ∈ ws, CrsfFrame.fromBytes w.1 = .ok w.2 ∧ w.2.addr ∈ sync ∧
          (w.1.length : ℤ) ≤ maxFrameLen := by
    induction frames with
    | nil => exact ⟨[], rfl, rfl, List.forall_mem_nil _⟩
    | cons f frames ih =>
        obtain ⟨hf, hrest⟩ := List.forall_mem_cons.mp hframes
        obtain ⟨ws, hsnd, hmap, hws⟩ := ih hrest
        have hpayload := hf.payload
        obtain ⟨data, hdata⟩ := CrsfFrame.exists_toBytes (hsync f.addr hf.addr) hf.type (by omega)
        have hparse := CrsfFrame.toBytes_iff_fromBytes.mp hdata
        have hlength := CrsfFrame.length_of_fromBytes hparse
        have hfits : (data.length : ℤ) ≤ maxFrameLen := by omega
        refine ⟨(data, f) :: ws, by rw [List.map_cons, hsnd], ?_, ?_⟩
        · rw [List.mapM_cons, hdata, hmap]
          rfl
        · exact List.forall_mem_cons.mpr ⟨⟨hparse, hf.addr, hfits⟩, hws⟩
  obtain ⟨ws, rfl, hmap, hws⟩ := hwires
  refine ⟨ws.map Prod.fst, hmap, ?_⟩
  rw [extractFrames_eq (drains_frames hws)]
  obtain ⟨hout, hcrc⟩ := drained_frames ws
  exact ⟨hout, rfl, hcrc⟩

/-- Two frames with the default settings; the payload of the second is a sync address. -/
theorem frames_round_trip_two :
    (∃ wires, [⟨0xEE, 0x14, [0x07]⟩, ⟨0xC8, 0x02, [0xC8]⟩].mapM CrsfFrame.toBytes = .ok wires ∧
        (extractFrames crsfMaxFrameLen syncAddresses wires.flatten).frames =
            [⟨0xEE, 0x14, [0x07]⟩, ⟨0xC8, 0x02, [0xC8]⟩] ∧
          (extractFrames crsfMaxFrameLen syncAddresses wires.flatten).buffer = [] ∧
            (extractFrames crsfMaxFrameLen syncAddresses wires.flatten).crcErrors = 0) ∧
      CrsfFrame.toBytes ⟨0xC8, 0x14, [0x07]⟩ = .ok [0xC8, 0x03, 0x14, 0x07, 0xC8] := by
  obtain ⟨hstream, hbytes⟩ :=
    frames_round_trip crsfMaxFrameLen syncAddresses (by decide) (by decide) (by decide)
  refine ⟨hstream _ ?_, hbytes _ _ (by decide +kernel)⟩
  refine List.forall_mem_cons.mpr ⟨⟨by decide, by decide, by decide⟩, ?_⟩
  exact List.forall_mem_singleton.mpr ⟨by decide, by decide, by decide⟩

/-! ## Garbage -/

/-- The bytes start with a candidate: a sync address, a plausible length, and a checksum
that is right. -/
def StartsFrame (maxFrameLen : ℤ) (sync : Finset ℤ) (bs : List UInt8) : Prop :=
  ∃ addr length rest, bs = addr :: length :: rest ∧ Plausible maxFrameLen sync addr length ∧
    ∃ f, CrsfFrame.fromBytes (bs.take (length.toNat + 2)) = .ok f

instance (maxFrameLen : ℤ) (sync : Finset ℤ) (addr length : UInt8) :
    Decidable (Plausible maxFrameLen sync addr length) :=
  decidable_of_iff ((addr.toNat : ℤ) ∈ sync ∧ 2 ≤ length.toNat ∧
      (length.toNat + 2 : ℕ) ≤ maxFrameLen)
    ⟨fun h ↦ ⟨h.1, h.2.1, h.2.2⟩, fun h ↦ ⟨h.sync, h.two_le, h.total_le⟩⟩

/-- Whether a candidate starts here can be read off the bytes. -/
theorem startsFrame_cons {maxFrameLen : ℤ} {sync : Finset ℤ} {addr length : UInt8}
    {rest : List UInt8} : StartsFrame maxFrameLen sync (addr :: length :: rest) ↔
      Plausible maxFrameLen sync addr length ∧
        (CrsfFrame.fromBytes ((addr :: length :: rest).take (length.toNat + 2))).toOption.isSome := by
  constructor
  · rintro ⟨addr', length', rest', heq, hhead, f, hf⟩
    cases heq
    rw [hf]
    exact ⟨hhead, rfl⟩
  · rintro ⟨hhead, hsome⟩
    obtain ⟨f, hf⟩ := Option.isSome_iff_exists.mp hsome
    exact ⟨addr, length, rest, rfl, hhead, f, Py.toOption_eq_some.mp hf⟩

instance (maxFrameLen : ℤ) (sync : Finset ℤ) :
    ∀ bs, Decidable (StartsFrame maxFrameLen sync bs)
  | [] => .isFalse (by rintro ⟨_, _, _, h, -⟩; cases h)
  | [_] => .isFalse (by rintro ⟨_, _, _, h, -⟩; cases h)
  | _ :: _ :: _ => decidable_of_iff' _ startsFrame_cons

/-- Where no frame starts, one byte is passed over. -/
theorem look_garbage {maxFrameLen : ℤ} {sync : Finset ℤ} {bs : List UInt8}
    (hlength : overhead ≤ bs.length) (hmax : maxFrameLen ≤ bs.length)
    (h : ¬ StartsFrame maxFrameLen sync bs) : ∃ t, look maxFrameLen sync bs = some (1, t) := by
  rcases look_cases maxFrameLen sync bs with ⟨hshort, -⟩ |
    ⟨addr, length, a, b, rest, rfl, hhead | hskip⟩
  · exact absurd hlength (not_le.mpr hshort)
  · have htotal := hhead.total_le
    rw [look_head hhead, if_neg (by omega), judge]
    cases hparse : CrsfFrame.fromBytes
        ((addr :: length :: a :: b :: rest).take (length.toNat + 2)) with
    | ok f => exact absurd ⟨addr, length, a :: b :: rest, rfl, hhead, f, hparse⟩ h
    | error e =>
        cases e with
        | crc message => exact ⟨_, rfl⟩
        | value message => exact ⟨_, rfl⟩
  · exact ⟨_, look_skip hskip⟩

/-- **Resynchronisation.**  A frame behind garbage is the first one to come out, if no
offset inside the garbage starts a candidate with the right checksum. -/
theorem frame_behind_garbage (maxFrameLen : ℤ) (sync : Finset ℤ) (g data more : List UInt8)
    (f : CrsfFrame) (hf : CrsfFrame.fromBytes data = .ok f) (haddr : f.addr ∈ sync)
    (hlength : (data.length : ℤ) ≤ maxFrameLen) (hmore : maxFrameLen ≤ more.length)
    (hg : ∀ i < g.length, ¬ StartsFrame maxFrameLen sync ((g ++ data ++ more).drop i)) :
    ∃ frames, (extractFrames maxFrameLen sync (g ++ data ++ more)).frames = f :: frames := by
  obtain ⟨ps, rest, hps⟩ := Drains.exists_drains (crsfScanner maxFrameLen sync) more
  have hdata : Drains (crsfScanner maxFrameLen sync) (data ++ more) ((data, .frame f) :: ps) rest :=
    .take (look_frame hf haddr hlength more) hps
  have htotal := CrsfFrame.length_of_fromBytes hf
  obtain ⟨qs, hqs, hdrains⟩ := hdata.passOver (g := g) fun a b c hsplit ↦ by
    have hdrop : (g ++ data ++ more).drop a.length = b :: (c ++ (data ++ more)) := by
      rw [hsplit, List.append_assoc, List.append_assoc, List.drop_left, List.cons_append]
    have hnone := hg a.length (by rw [hsplit, List.length_append, List.length_cons]; omega)
    rw [hdrop] at hnone
    apply look_garbage _ _ hnone
    · simp only [overhead, List.length_cons, List.length_append]
      omega
    · simp only [List.length_cons, List.length_append]
      omega
  rw [List.append_assoc, extractFrames_eq hdrains]
  have hskipped : qs.filterMap (fun p ↦ p.2.frame?) = [] := by
    rw [List.filterMap_eq_nil_iff]
    intro p hp
    rw [frame?_of_drains hdrains p (List.mem_append_left _ hp)]
    obtain ⟨b, -, hb⟩ := List.mem_map.mp (hqs ▸ List.mem_map_of_mem (f := Prod.fst) hp)
    rw [← hb]
    rfl
  refine ⟨ps.filterMap fun p ↦ p.2.frame?, ?_⟩
  rw [drained, List.filterMap_append, hskipped, List.nil_append]
  rfl

/-- A false start whose length reaches into the frame behind it. -/
theorem frame_behind_false_start :
    ∃ frames, (extractFrames 8 syncAddresses
      ([0xEA, 0x05, 0x14] ++ [0xC8, 0x03, 0x14, 0x07, 0xC8] ++ List.replicate 8 0x00)).frames =
        ⟨0xC8, 0x14, [0x07]⟩ :: frames :=
  frame_behind_garbage 8 syncAddresses [0xEA, 0x05, 0x14] [0xC8, 0x03, 0x14, 0x07, 0xC8]
    (List.replicate 8 0x00) ⟨0xC8, 0x14, [0x07]⟩ (by decide +kernel) (by decide) (by decide)
    (by decide) (by decide +kernel)

end DroneComms.Fpv
