import Mingfwq.ByteArray.FixedWidths
import Mingfwq.ByteArray.Strings
import Mingfwq.ByteArray.Varints
import Mingfwq.Stream.Receive
import Mingfwq.Stream.Send

/-!
# A message from one end of a connection to the other

One end writes values of all kinds into its array and sends them; the other end receives them into an array of its own
and reads them with the matching readers. The machines may differ in their byte order, and the arrays in the size of
their nodes.
-/

namespace Mingfwq

open Lib

namespace ByteArray

/-- A value of any kind. -/
inductive Field where
  | unsigned (x : Unsigned)
  | signed (x : Signed)
  | fixed (x : Fixed)
  | string (x : StringF)

/-- What a reader returns. -/
inductive Field.Got where
  | unsigned (x : Unsigned)
  | signed (x : Signed)
  | fixed (x : Fixed)
  | string (chars : List UInt8)
  deriving DecidableEq

namespace Field

def write (memory : Memory) (MINGFWQ_BYTE_ORDER m_endian : ByteOrder) : Field → Op Unit
  | .unsigned x => x.write memory
  | .signed x => x.write memory
  | .fixed x => x.write memory MINGFWQ_BYTE_ORDER m_endian
  | .string x => x.write memory MINGFWQ_BYTE_ORDER m_endian

/-- With the reader that matches the writer. -/
def read (MINGFWQ_BYTE_ORDER m_endian : ByteOrder) : Field → Op Got
  | .unsigned x => .unsigned <$> x.read
  | .signed x => .signed <$> x.read
  | .fixed x => .fixed <$> x.read MINGFWQ_BYTE_ORDER m_endian
  | .string x => .string <$> x.read MINGFWQ_BYTE_ORDER m_endian

def encoding (m_endian : ByteOrder) : Field → List UInt8
  | .unsigned x => x.encoding
  | .signed x => x.encoding
  | .fixed x => x.representation m_endian
  | .string x => x.encoding m_endian

/-- What should be read. -/
def got : Field → Got
  | .unsigned x => .unsigned x
  | .signed x => .signed x
  | .fixed x => .fixed x
  | .string x => .string x.value.chars

/-- The readers return the value: readInt64 one that has 32 bits, readBouble none, and a string has a size that fits its
prefix and is not empty. -/
def Kept : Field → Prop
  | .unsigned _ => True
  | .signed x => ∀ v, x = .int64 v → Narrow v
  | .fixed x => x.isDouble = false
  | .string x => x.Counted ∧ x.value.chars ≠ []

variable {B : Nat} {memory : Memory} {MINGFWQ_BYTE_ORDER m_endian : ByteOrder}

theorem writes (hB : 0 < B) (x : Field) :
    Writes B (x.write memory MINGFWQ_BYTE_ORDER m_endian) (x.encoding m_endian) := by
  cases x with
  | unsigned x => exact x.writes hB
  | signed x => exact x.writes hB
  | fixed x => exact x.writes hB
  | string x => exact x.writes hB

theorem reads (hB : 0 < B) (x : Field) (hx : x.Kept) :
    Reads B (x.read MINGFWQ_BYTE_ORDER m_endian) (x.encoding m_endian) x.got := by
  cases x with
  | unsigned x => exact (x.reads hB).map _
  | signed x => exact (x.reads hB hx).map _
  | fixed x => exact (x.reads hB hx).map _
  | string x =>
      refine Reads.map (fun a rest ha hahead => ?_) _
      have hread := x.reads MINGFWQ_BYTE_ORDER hB hx.1 ha hahead
      rwa [if_neg (fun h => hx.2 h.1)] at hread

end Field

/-- A message: each value is written in the order that setIsLittleEndian has set before. -/
abbrev Message := List (ByteOrder × Field)

namespace Message

def write (memory : Memory) (MINGFWQ_BYTE_ORDER : ByteOrder) (message : Message) : Op Unit :=
  forM message fun (m_endian, x) => x.write memory MINGFWQ_BYTE_ORDER m_endian

def read (MINGFWQ_BYTE_ORDER : ByteOrder) (message : Message) : Op (List Field.Got) :=
  message.mapM fun (m_endian, x) => x.read MINGFWQ_BYTE_ORDER m_endian

def encoding (message : Message) : List UInt8 := message.flatMap fun (m_endian, x) => x.encoding m_endian

def got (message : Message) : List Field.Got := message.map fun (_, x) => x.got

/-- The array after a message that could be written. -/
def written (memory : Memory) (MINGFWQ_BYTE_ORDER : ByteOrder) (message : Message) (a : ByteArray) : Option ByteArray :=
  match message.write memory MINGFWQ_BYTE_ORDER a with
  | .ok _ a' => some a'
  | .error _ _ => none

variable {B : Nat} {a a' : ByteArray} {memory : Memory} {MINGFWQ_BYTE_ORDER : ByteOrder} {message : Message}

theorem write_of_written (h : message.written memory MINGFWQ_BYTE_ORDER a = some a') :
    message.write memory MINGFWQ_BYTE_ORDER a = .ok () a' := by
  unfold written at h
  split at h
  · next hop =>
      cases h
      exact hop
  · cases h

theorem writes (hB : 0 < B) (message : Message) : Writes B (message.write memory MINGFWQ_BYTE_ORDER) message.encoding :=
  writes_forM fun x _ => x.2.writes hB

theorem reads (hB : 0 < B) (h : ∀ x ∈ message, x.2.Kept) :
    Reads B (message.read MINGFWQ_BYTE_ORDER) message.encoding message.got :=
  reads_mapM fun x hx => x.2.reads hB (h x hx)

end Message

end ByteArray

namespace SocketStream

variable {B₁ B₂ n : Nat} {a a₁ b : ByteArray} {message : ByteArray.Message}

/-- What one end writes and sends, the other end receives and reads, in whatever pieces the bytes go and arrive. -/
theorem message_arrives (hB₁ : 1 ≤ B₁) (hB₂ : 1 ≤ B₂) {init₁ init₂ : Nat → UInt8}
    (ha : (ByteArray.system B₁ init₁).Reachable a) (hb : (ByteArray.system B₂ init₂).Reachable b)
    (memory₁ memory₂ : ByteArray.Memory) (order₁ order₂ : ByteOrder) (hkept : ∀ x ∈ message, x.2.Kept)
    (hwrite : message.write memory₁ order₁ a = .ok () a₁) (hcap : a₁.m_capacity < 2 ^ 64)
    (hn : n = a₁.m_position - a.m_position) (hsend : n = 0 ∨ ByteArray.Sendable B₁ a₁.m_capacity a.m_position n)
    (hroom : n ≤ b.getCapacity ∨ (n - b.getCapacity) % B₂ = 0 ∨ b.getCapacity < (n - b.getCapacity) % B₂)
    {takes : List (Option Nat)} (htakes : (Sink.mk takes []).Successful) :
    ∃ a₂ sink a₃, a₁.setPosition a.m_position = .ok a₂ ∧
      writeFixSize ⟨takes, []⟩ a₂ n = .ok (some (toInt32 n, (sink, a₃))) ∧ a₃.m_position = a₁.m_position ∧
      ∀ peer more, peer.Successful → peer.bytes = sink.sent ++ more → ∃ left b₁ b₂ b₃,
        readFixSize memory₂ peer b n = .ok (some (toInt32 n, (left, b₁))) ∧ left.bytes = more ∧
          b₁.setPosition b.m_position = .ok b₂ ∧ message.read order₂ b₂ = .ok message.got b₃ ∧
          b₃.m_position = b₁.m_position := by
  have hwf := ByteArray.reachable_wellFormed hB₁ ha
  have hwrote := ByteArray.Message.writes hB₁ message a a₁ hwf hwrite
  have hposition : a₁.m_position = a.m_position + message.encoding.length :=
    ((ByteArray.Message.writes hB₁ message).stored hwf hwrite).1
  obtain rfl : n = message.encoding.length := by omega
  obtain ⟨a₂, more, hset, hwf₂, hposition₂, hcapacity₂, hahead₂⟩ := hwrote.back hB₁
  have hread : message.encoding.length ≤ a₂.getReadSize := by
    rw [← hwf₂.length_ahead, hahead₂, List.length_append]
    omega
  obtain ⟨sink, a₃, hsent, hbytes, hpassed⟩ := writeFixSize_ok hB₁ hwf₂ (hcapacity₂ ▸ hcap) hread
    (by rw [hcapacity₂, hposition₂]; exact hsend) htakes
  rw [List.nil_append, hahead₂, List.take_left] at hbytes
  refine ⟨a₂, sink, a₃, hset, hsent, by rw [hpassed.position, hposition₂, hposition], fun peer more hs hpeer => ?_⟩
  rw [hbytes] at hpeer
  have hwf_b := ByteArray.reachable_wellFormed hB₂ hb
  have hsize := hwf₂.size
  rw [ByteArray.getReadSize] at hread
  have hle : message.encoding.length ≤ peer.bytes.length := by
    rw [hpeer, List.length_append]
    omega
  obtain ⟨b₁, hreceived, hwrote_b⟩ := readFixSize_ok hB₂ hwf_b memory₂ hs hle (by omega) hroom
  rw [hpeer, List.take_left] at hwrote_b
  obtain ⟨growth, -, hflat⟩ := hwrote_b.flat
  have hposition_b : b₁.flat.cursor = b.m_position + message.encoding.length := by rw [hflat]; rfl
  obtain ⟨b₂, rest, hset_b, hwf_b₂, hposition_b₂, -, hahead_b⟩ := hwrote_b.back hB₂
  obtain ⟨b₃, hok, hpassed_b⟩ := ByteArray.Message.reads hB₂ hkept b₂ rest hwf_b₂ hahead_b
  refine ⟨_, b₁, b₂, b₃, hreceived, ?_, hset_b, hok, ?_⟩
  · rw [Peer.bytes_dropBytes hs, hpeer, List.drop_left]
  · rw [hpassed_b.position, hposition_b₂]
    exact hposition_b.symm

/-- A number in big-endian order, a string behind a number in little-endian order, and a varint: seven bytes. -/
def threeFields : ByteArray.Message :=
  [(.big, .fixed (.uint16 258)), (.little, .string (.f16 ⟨[104, 105], by decide⟩)), (.big, .signed (.int32 (-3)))]

/-- The array after they have been written on a little-endian machine. -/
def threeWritten : ByteArray := ⟨16, 7, 16, 7, [[1, 2, 2, 0, 104, 105, 5, 0, 0, 0, 0, 0, 0, 0, 0, 0]], some 0⟩

theorem threeFields_written :
    threeFields.written (fun _ _ => 0) .little (.new 16 fun _ => 0) = some threeWritten := by
  decide +kernel

/-- A big-endian machine with nodes of eight bytes reads them back. -/
theorem message_arrives_threeFields : ∃ a₂ sink a₃, threeWritten.setPosition 0 = .ok a₂ ∧
    writeFixSize ⟨[some 3], []⟩ a₂ 7 = .ok (some (7, (sink, a₃))) ∧ a₃.m_position = 7 ∧
      ∀ peer more, peer.Successful → peer.bytes = sink.sent ++ more → ∃ left b₁ b₂ b₃,
        readFixSize (fun _ _ => 0) peer (.new 8 fun _ => 0) 7 = .ok (some (7, (left, b₁))) ∧ left.bytes = more ∧
          b₁.setPosition 0 = .ok b₂ ∧ threeFields.read .big b₂ = .ok threeFields.got b₃ ∧
          b₃.m_position = b₁.m_position := by
  have hkept : ∀ x ∈ threeFields, x.2.Kept := by
    simp [threeFields, ByteArray.Field.Kept, ByteArray.Fixed.isDouble, ByteArray.StringF.Counted,
      ByteArray.StringF.value, ByteArray.StdString.size]
  have hwrite := ByteArray.Message.write_of_written threeFields_written
  have ha : (ByteArray.system 16 fun _ => 0).Reachable (.new 16 fun _ => 0) := .init
  have hb : (ByteArray.system 8 fun _ => 0).Reachable (.new 8 fun _ => 0) := .init
  exact message_arrives (by decide) (by decide) ha hb (fun _ _ => 0) (fun _ _ => 0) .little .big hkept hwrite
    (by decide) (show 7 = threeWritten.m_position - 0 from rfl) (.inr (.inl (by decide))) (.inl (by decide))
    (by simp [Sink.Successful])

end SocketStream

end Mingfwq
