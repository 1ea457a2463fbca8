import TkmCollector.Helpers

namespace TkmCollector.Proofs

/-- The zeros that the buffer holds behind the header. -/
def behindHeader : List UInt8 := List.replicate (descBufferSize - headerSize) 0

lemma readVarint32_header (header : List UInt8) (h : header.length = headerSize) :
    (readVarint32 (header ++ behindHeader)).isSome := by
  have hzero : behindHeader = 0 :: List.replicate (descBufferSize - headerSize - 1) 0 := rfl
  rw [readVarint32, Option.isSome_map, hzero]
  apply Varint.decode_isSome_of_zero
  rw [h]
  decide

section Receive

variable {stream array rest unread : List UInt8} {size : Nat}

/-- What is known of a stream from which an envelope is received. -/
structure Received (stream : List UInt8) (size : Nat) (unread array rest : List UInt8) : Prop where
  size_le : size ≤ descBufferSize - headerSize
  complete : headerSize + size ≤ stream.length
  read : readVarint32 (stream.take headerSize ++ behindHeader) = some (size, unread)
  rest_eq : rest = stream.drop (headerSize + size)
  array_eq : array = ((stream.take (headerSize + size) ++
    List.replicate (descBufferSize - headerSize - size) 0).drop (descBufferSize - unread.length)).take size

lemma receiveEnvelope_eq_some_iff :
    receiveEnvelope stream = some (array, rest) ↔ ∃ size unread, Received stream size unread array rest := by
  have hbuffer : descBufferSize = 1024 := rfl
  have hheaderSize : headerSize = 8 := rfl
  constructor
  · intro h
    unfold receiveEnvelope at h
    by_cases hheader : (stream.take headerSize).length ≠ headerSize
    · rw [if_pos hheader] at h
      cases h
    rw [if_neg hheader] at h
    split at h
    · cases h
    rename_i size unread hread
    by_cases hsize : size > descBufferSize - headerSize
    · rw [if_pos hsize] at h
      cases h
    rw [if_neg hsize] at h
    by_cases hbody : ((stream.drop headerSize).take size).length ≠ size
    · rw [if_pos hbody] at h
      cases h
    rw [if_neg hbody, Option.some.injEq, Prod.mk.injEq] at h
    rw [List.length_take] at hheader
    rw [List.length_take, List.length_drop] at hbody
    refine ⟨size, unread, by omega, by omega, hread, ?_, ?_⟩
    · rw [← h.2, List.drop_drop]
    · rw [← h.1, List.take_add]
  · rintro ⟨size, unread, hreceived⟩
    have hsize := hreceived.size_le
    have hcomplete := hreceived.complete
    have hread := hreceived.read
    have hheader : (stream.take headerSize).length = headerSize := by
      rw [List.length_take]
      omega
    have hbody : ((stream.drop headerSize).take size).length = size := by
      rw [List.length_take, List.length_drop]
      omega
    unfold behindHeader at hread
    unfold receiveEnvelope
    simp only [hheader, hread, hbody, ne_eq, not_true_eq_false, if_false, gt_iff_lt, not_lt.mpr hsize]
    rw [hreceived.rest_eq, hreceived.array_eq, List.drop_drop, List.take_add]

lemma received_of_header {number content : List UInt8} {n : Nat}
    (hnumber : ∀ others, Varint.decode 10 (number ++ others) = some (n, others))
    (hheader : number.length ≤ headerSize) (hsize : n % 2 ^ 32 ≤ descBufferSize - headerSize)
    (hcontent : headerSize + n % 2 ^ 32 ≤ number.length + content.length) :
    receiveEnvelope (number ++ content) =
      some (content.take (n % 2 ^ 32), content.drop (headerSize - number.length + n % 2 ^ 32)) := by
  have hbuffer : descBufferSize = 1024 := rfl
  have hheaderSize : headerSize = 8 := rfl
  rw [receiveEnvelope_eq_some_iff]
  refine ⟨n % 2 ^ 32, content.take (headerSize - number.length) ++ behindHeader, hsize, ?_, ?_, ?_, ?_⟩
  · rw [List.length_append]
    exact hcontent
  · rw [List.take_append, List.take_of_length_le hheader, List.append_assoc]
    unfold readVarint32
    rw [hnumber]
    rfl
  · have hnone : number.drop (headerSize + n % 2 ^ 32) = [] := List.drop_of_length_le (by omega)
    rw [List.drop_append, hnone, List.nil_append]
    congr 1
    omega
  · have hunread : descBufferSize - (content.take (headerSize - number.length) ++ behindHeader).length =
        number.length := by
      simp only [List.length_append, List.length_take, behindHeader, List.length_replicate]
      omega
    have hall : number.take (headerSize + n % 2 ^ 32) = number := List.take_of_length_le (by omega)
    rw [hunread, List.take_append, hall, List.append_assoc, List.drop_left,
      List.take_append_of_le_length, List.take_take]
    · congr 1
      omega
    · rw [List.length_take]
      omega

end Receive

section Framing

variable {Any Descriptor : Type} {pb : Protobuf Any Descriptor} {descriptor : Descriptor}

/-- `envelope.ByteSizeLong()`. -/
def envelopeSize (pb : Protobuf Any Descriptor) (descriptor : Descriptor) : Nat :=
  (pb.serialize (descriptorEnvelope pb descriptor)).length

/-- Nothing is sent and the result is false, or what is sent is in the buffer and is read as the
descriptor, to the last byte. -/
def FramingRoundTrips (pb : Protobuf Any Descriptor) (descriptor : Descriptor) : Prop :=
  ∀ send before, match sendControlDescriptor pb send descriptor with
    | (result, none) => result = false
    | (_, some call) =>
      call.length = envelopeSize pb descriptor + headerSize ∧ call.length ≤ descBufferSize ∧
        readControlDescriptor pb (call.buffer.take call.length) before = some (descriptor, [])

/-- The bytes that are written to the buffer. -/
def written (pb : Protobuf Any Descriptor) (descriptor : Descriptor) : List UInt8 :=
  Varint.encode 4 (envelopeSize pb descriptor) ++ pb.serialize (descriptorEnvelope pb descriptor)

lemma length_written : (written pb descriptor).length =
    (Varint.encode 4 (envelopeSize pb descriptor)).length + envelopeSize pb descriptor :=
  List.length_append

lemma sendControlDescriptor_eq (send : SendCall → Int) :
    sendControlDescriptor pb send descriptor =
      if descBufferSize - 2 < envelopeSize pb descriptor then (false, none)
      else
        let call : SendCall :=
          ⟨written pb descriptor ++ List.replicate (descBufferSize - (written pb descriptor).length) 0,
            envelopeSize pb descriptor + headerSize⟩
        (send call = call.length, some call) := by
  have hbuffer : descBufferSize = 1024 := rfl
  have hlength : (written pb descriptor).length = _ := length_written
  unfold sendControlDescriptor
  by_cases hlarge : descBufferSize - 2 < envelopeSize pb descriptor
  · rw [if_pos hlarge]
    have htwo : 1 < (Varint.encode 4 (envelopeSize pb descriptor)).length :=
      Varint.lt_length_encode (by omega) (by omega)
    by_cases hsize : envelopeSize pb descriptor > 2 ^ 32 - 1 ∨ envelopeSize pb descriptor > descBufferSize
    · exact if_pos hsize
    · have hwritten : (written pb descriptor).length > descBufferSize := by omega
      exact (if_neg hsize).trans (if_pos hwritten)
  · rw [if_neg hlarge]
    have htwo : (Varint.encode 4 (envelopeSize pb descriptor)).length ≤ 2 :=
      Varint.length_encode_le (j := 1) (by omega)
    have hsize : ¬ (envelopeSize pb descriptor > 2 ^ 32 - 1 ∨
        envelopeSize pb descriptor > descBufferSize) := by omega
    have hwritten : ¬ (written pb descriptor).length > descBufferSize := by omega
    exact (if_neg hsize).trans (if_neg hwritten)

lemma readControlDescriptor_written (hlaw : pb.Lawful)
    (hsize : envelopeSize pb descriptor ≤ descBufferSize - headerSize) (before : Descriptor) :
    readControlDescriptor pb
      ((written pb descriptor ++ List.replicate (descBufferSize - (written pb descriptor).length) 0).take
        (envelopeSize pb descriptor + headerSize)) before = some (descriptor, []) := by
  have hbuffer : descBufferSize = 1024 := rfl
  have hheaderSize : headerSize = 8 := rfl
  let array := pb.serialize (descriptorEnvelope pb descriptor)
  let number := Varint.encode 4 (envelopeSize pb descriptor)
  let zeros := List.replicate (descBufferSize - (written pb descriptor).length) (0 : UInt8)
  let content := (array ++ zeros).take (envelopeSize pb descriptor + headerSize - number.length)
  have hlength : (written pb descriptor).length = number.length + envelopeSize pb descriptor :=
    length_written
  have htwo : number.length ≤ 2 := Varint.length_encode_le (j := 1) (by omega)
  have harray : array.length = envelopeSize pb descriptor := rfl
  have hcontent : content.length = envelopeSize pb descriptor + headerSize - number.length := by
    simp only [content, zeros, List.length_take, List.length_append, List.length_replicate, harray]
    omega
  have hstream : (written pb descriptor ++ zeros).take (envelopeSize pb descriptor + headerSize) =
      number ++ content := by
    have hall : number.take (envelopeSize pb descriptor + headerSize) = number :=
      List.take_of_length_le (by omega)
    change (number ++ array ++ zeros).take _ = _
    rw [List.append_assoc, List.take_append, hall]
  have hnumber : ∀ others, Varint.decode 10 (number ++ others) = some (envelopeSize pb descriptor, others) :=
    Varint.decode_encode (by decide) (by omega)
  have hmod : envelopeSize pb descriptor % 2 ^ 32 = envelopeSize pb descriptor :=
    Nat.mod_eq_of_lt (by omega)
  have hreceive : receiveEnvelope (number ++ content) = some (array, []) := by
    rw [received_of_header hnumber (by omega) (by omega) (by omega), hmod]
    congr 2
    · rw [List.take_take, List.take_append_of_le_length (by omega)]
      exact List.take_of_length_le (by omega)
    · exact List.drop_of_length_le (by omega)
  have hparse : pb.parse array = some (descriptorEnvelope pb descriptor) := hlaw.parse_serialize _
  unfold readControlDescriptor
  rw [hstream, hreceive]
  simp only [hparse, descriptorEnvelope, hlaw.unpack_message, Unpacked.target, hlaw.unpack_descriptor]
  rfl

/-- A descriptor is either not sent or read back, exactly when its envelope leaves room for the
header or does not fit into the buffer. -/
theorem descriptor_framing (hlaw : pb.Lawful) (descriptor : Descriptor) :
    FramingRoundTrips pb descriptor ↔
      envelopeSize pb descriptor ≤ 1016 ∨ 1022 < envelopeSize pb descriptor := by
  have hbuffer : descBufferSize = 1024 := rfl
  have hheaderSize : headerSize = 8 := rfl
  unfold FramingRoundTrips
  constructor
  · intro h
    have hsend := h (fun _ => 0) descriptor
    rw [sendControlDescriptor_eq] at hsend
    by_cases hlarge : descBufferSize - 2 < envelopeSize pb descriptor
    · exact .inr hlarge
    · rw [if_neg hlarge] at hsend
      have hfits := hsend.2.1
      dsimp only at hfits
      exact .inl (by omega)
  · intro hsize send before
    rw [sendControlDescriptor_eq]
    by_cases hlarge : descBufferSize - 2 < envelopeSize pb descriptor
    · rw [if_pos hlarge]
    · rw [if_neg hlarge]
      have hroom : envelopeSize pb descriptor ≤ descBufferSize - headerSize := by omega
      refine ⟨rfl, ?_, readControlDescriptor_written hlaw hroom before⟩
      dsimp only
      omega

end Framing

section Accepting

variable {Any Descriptor : Type} {pb : Protobuf Any Descriptor}

/-- The frame is the size of an envelope with the envelope behind it, which holds a `Message` of type
`Descriptor` with the descriptor. -/
def CarriesDescriptor (pb : Protobuf Any Descriptor) (frame : List UInt8) (descriptor : Descriptor) :
    Prop :=
  ∃ size content envelope message, readVarint32 frame = some (size, content) ∧ size ≤ content.length ∧
    pb.parse (content.take size) = some envelope ∧ pb.unpackMessage envelope.mesg = .unpacked message ∧
    message.type = .descriptor ∧ pb.unpackDescriptor message.data = .unpacked descriptor

/-- When the result is true, what was read of the stream carries the descriptor. -/
def AcceptsDescriptors (pb : Protobuf Any Descriptor) (stream : List UInt8) (before : Descriptor) :
    Prop :=
  ∀ descriptor rest, readControlDescriptor pb stream before = some (descriptor, rest) →
    ∃ frame, stream = frame ++ rest ∧ CarriesDescriptor pb frame descriptor

/-- The envelope that is received holds a `Message`, and when that is of type `Descriptor` it holds a
descriptor and its size ended within the header. -/
def HoldsMessage (pb : Protobuf Any Descriptor) (stream : List UInt8) : Prop :=
  ∀ array rest envelope, receiveEnvelope stream = some (array, rest) → pb.parse array = some envelope →
    match pb.unpackMessage envelope.mesg with
    | .unpacked message => message.type = .descriptor →
        (readVarint32 (stream.take headerSize)).isSome ∧
          ∃ descriptor, pb.unpackDescriptor message.data = .unpacked descriptor
    | .otherType => False
    | .malformed part => part.type ≠ .descriptor

lemma readVarint32_eq_some {bytes rest : List UInt8} {size : Nat}
    (h : readVarint32 bytes = some (size, rest)) :
    ∃ n number, bytes = number ++ rest ∧ n % 2 ^ 32 = size ∧
      ∀ others, Varint.decode 10 (number ++ others) = some (n, others) := by
  unfold readVarint32 at h
  obtain ⟨⟨n, rest'⟩, hdecode, heq⟩ := Option.map_eq_some_iff.mp h
  obtain ⟨hsize, rfl⟩ := Prod.mk.inj heq
  obtain ⟨number, hbytes, -, -, hnumber⟩ := Varint.decode_split hdecode
  exact ⟨n, number, hbytes, hsize, hnumber⟩

lemma received_of_number {stream array rest number content : List UInt8} {n : Nat}
    (hreceive : receiveEnvelope stream = some (array, rest)) (hstream : stream = number ++ content)
    (hnumber : ∀ others, Varint.decode 10 (number ++ others) = some (n, others))
    (hheader : number.length ≤ headerSize) :
    headerSize + n % 2 ^ 32 ≤ number.length + content.length ∧ array = content.take (n % 2 ^ 32) ∧
      rest = content.drop (headerSize - number.length + n % 2 ^ 32) := by
  obtain ⟨size, unread, hreceived⟩ := receiveEnvelope_eq_some_iff.mp hreceive
  have hread := hreceived.read
  rw [hstream, List.take_append, List.take_of_length_le hheader, List.append_assoc, readVarint32, hnumber,
    Option.map_some, Option.some.injEq, Prod.mk.injEq] at hread
  have hsize := hreceived.size_le
  have hcomplete := hreceived.complete
  rw [hstream, List.length_append] at hcomplete
  rw [← hread.1] at hsize hcomplete
  rw [hstream, received_of_header hnumber hheader hsize hcomplete, Option.some.injEq,
    Prod.mk.injEq] at hreceive
  exact ⟨hcomplete, hreceive.1.symm, hreceive.2.symm⟩

lemma frame_of_header {stream array rest : List UInt8}
    (hreceive : receiveEnvelope stream = some (array, rest))
    (hheader : (readVarint32 (stream.take headerSize)).isSome) :
    ∃ frame size content, stream = frame ++ rest ∧ readVarint32 frame = some (size, content) ∧
      size ≤ content.length ∧ content.take size = array := by
  obtain ⟨⟨size, inHeader⟩, hread⟩ := Option.isSome_iff_exists.mp hheader
  obtain ⟨n, number, hbytes, hsize, hnumber⟩ := readVarint32_eq_some hread
  have hlength := congrArg List.length hbytes
  rw [List.length_take, List.length_append] at hlength
  have hstream : stream = number ++ (inHeader ++ stream.drop headerSize) := by
    rw [← List.append_assoc, ← hbytes, List.take_append_drop]
  obtain ⟨hcomplete, harray, hrest⟩ := received_of_number hreceive hstream hnumber (by omega)
  let content := (inHeader ++ stream.drop headerSize).take (headerSize - number.length + n % 2 ^ 32)
  have hcontent : content.length = headerSize - number.length + n % 2 ^ 32 := by
    rw [List.length_take]
    omega
  refine ⟨number ++ content, n % 2 ^ 32, content, ?_, ?_, by omega, ?_⟩
  · rw [hrest, List.append_assoc, List.take_append_drop]
    exact hstream
  · rw [readVarint32, hnumber]
    rfl
  · rw [harray, List.take_take]
    congr 1
    omega

lemma short_of_long_number {stream frame number content array rest : List UInt8} {n : Nat}
    (hreceive : receiveEnvelope stream = some (array, rest)) (hstream : stream = frame ++ rest)
    (hframe : frame = number ++ content)
    (hnumber : ∀ others, Varint.decode 10 (number ++ others) = some (n, others))
    (hlong : headerSize < number.length) : content.length < n % 2 ^ 32 := by
  have hheaderSize : headerSize = 8 := rfl
  obtain ⟨size, unread, hreceived⟩ := receiveEnvelope_eq_some_iff.mp hreceive
  have hcomplete := hreceived.complete
  have hrest := congrArg List.length hreceived.rest_eq
  have hlength := congrArg List.length hstream
  rw [List.length_drop] at hrest
  rw [hframe, List.length_append, List.length_append] at hlength
  let more := number.drop headerSize
  have hsplit : number = stream.take headerSize ++ more := by
    rw [hstream, hframe, List.append_assoc, List.take_append_of_le_length (by omega),
      List.take_append_drop]
  have hmore : 0 < more.length := by
    rw [List.length_drop]
    omega
  obtain ⟨n', number', hbytes, hsize, hnumber'⟩ := readVarint32_eq_some hreceived.read
  -- the number that is read has its end behind the header as well
  have hunread : unread.length < behindHeader.length := by
    by_contra hshort
    have hlength' := congrArg List.length hbytes
    rw [List.length_append, List.length_append, List.length_take, min_eq_left (by omega)] at hlength'
    have hheader : stream.take headerSize = number' ++ (stream.take headerSize).drop number'.length := by
      have htake := congrArg (List.take number'.length) hbytes
      rw [List.take_left, List.take_append_of_le_length (by rw [List.length_take]; omega)] at htake
      conv_lhs => rw [← List.take_append_drop number'.length (stream.take headerSize), htake]
    have h := hnumber []
    rw [List.append_nil, hsplit, hheader, List.append_assoc, hnumber', Option.some.injEq,
      Prod.mk.injEq] at h
    have hnil := congrArg List.length h.2
    rw [List.length_append, List.length_nil] at hnil
    omega
  have hmod : n' ≡ n [MOD 2 ^ 32] := by
    have h := hnumber' unread
    rw [← hbytes] at h
    have h' := hnumber []
    rw [List.append_nil, hsplit] at h'
    have hmodEq := Varint.decode_modEq h hunread h' hmore
    apply hmodEq.of_dvd
    rw [List.length_take, min_eq_left (by omega)]
    decide
  rw [Nat.ModEq, hsize] at hmod
  omega

/-- A frame with its size before the envelope has its size in the header, and holds the envelope. -/
lemma header_of_frame {stream frame content array rest : List UInt8} {size : Nat}
    (hreceive : receiveEnvelope stream = some (array, rest)) (hstream : stream = frame ++ rest)
    (hframe : readVarint32 frame = some (size, content)) (hsize : size ≤ content.length) :
    (readVarint32 (stream.take headerSize)).isSome ∧ content.take size = array := by
  obtain ⟨n, number, hbytes, rfl, hnumber⟩ := readVarint32_eq_some hframe
  have hheader : number.length ≤ headerSize := by
    by_contra hlong
    have hshort := short_of_long_number hreceive hstream hbytes hnumber (by omega)
    omega
  have hall : stream = number ++ (content ++ rest) := by
    rw [hstream, hbytes, List.append_assoc]
  obtain ⟨-, harray, -⟩ := received_of_number hreceive hall hnumber hheader
  constructor
  · rw [hall, List.take_append, List.take_of_length_le hheader, readVarint32, hnumber]
    rfl
  · rw [harray, List.take_append_of_le_length hsize]

/-- A descriptor that is accepted was sent, whatever the caller held before, exactly when the envelope
holds a `Message`, with a descriptor behind a size of at most eight bytes when it says so. -/
theorem descriptors_accepted (pb : Protobuf Any Descriptor) (stream : List UInt8) (before : Descriptor) :
    AcceptsDescriptors pb stream before ↔ HoldsMessage pb stream := by
  constructor
  · intro h array rest envelope hreceive hparse
    have hread : ∀ message, (pb.unpackMessage envelope.mesg).target
        ⟨.descriptor, pb.packDescriptor before⟩ = message → message.type = .descriptor →
        ∃ message', pb.unpackMessage envelope.mesg = .unpacked message' ∧
          (readVarint32 (stream.take headerSize)).isSome ∧
          pb.unpackDescriptor message'.data = .unpacked
            ((pb.unpackDescriptor message.data).target before) := by
      intro message hmessage htype
      have hsome : readControlDescriptor pb stream before =
          some ((pb.unpackDescriptor message.data).target before, rest) := by
        unfold readControlDescriptor
        simp only [hreceive, hparse, hmessage, htype, ne_eq, not_true_eq_false, if_false]
      obtain ⟨frame, hstream, size, content, envelope', message', hframe, hsize, hparse', hmessage',
        -, hdescriptor⟩ := h _ _ hsome
      obtain ⟨hheader, harray⟩ := header_of_frame hreceive hstream hframe hsize
      rw [harray, hparse, Option.some.injEq] at hparse'
      rw [← hparse'] at hmessage'
      exact ⟨message', hmessage', hheader, hdescriptor⟩
    cases hunpack : pb.unpackMessage envelope.mesg with
    | unpacked message =>
      intro htype
      obtain ⟨message', hmessage', hheader, hdescriptor⟩ :=
        hread message (congrArg (Unpacked.target _) hunpack) htype
      rw [hunpack, Unpacked.unpacked.injEq] at hmessage'
      rw [← hmessage'] at hdescriptor
      exact ⟨hheader, _, hdescriptor⟩
    | otherType =>
      obtain ⟨message', hmessage', -⟩ := hread _ (congrArg (Unpacked.target _) hunpack) rfl
      rw [hunpack] at hmessage'
      cases hmessage'
    | malformed part =>
      intro htype
      obtain ⟨message', hmessage', -⟩ := hread part (congrArg (Unpacked.target _) hunpack) htype
      rw [hunpack] at hmessage'
      cases hmessage'
  · intro h descriptor rest hread
    unfold readControlDescriptor at hread
    cases hreceive : receiveEnvelope stream with
    | none => simp [hreceive] at hread
    | some received =>
      obtain ⟨array, rest'⟩ := received
      cases hparse : pb.parse array with
      | none => simp [hreceive, hparse] at hread
      | some envelope =>
        have hholds := h array rest' envelope hreceive hparse
        simp only [hreceive, hparse] at hread
        split at hread
        · cases hread
        rename_i htype
        rw [not_not] at htype
        obtain ⟨hdescriptor, rfl⟩ := Prod.mk.inj (Option.some.inj hread)
        cases hunpack : pb.unpackMessage envelope.mesg with
        | unpacked message =>
          rw [hunpack] at hholds htype hdescriptor
          obtain ⟨hheader, d, hd⟩ := hholds htype
          obtain ⟨frame, size, content, hstream, hframe, hsize, hcontent⟩ :=
            frame_of_header hreceive hheader
          refine ⟨frame, hstream, size, content, envelope, message, hframe, hsize, ?_, hunpack, htype, ?_⟩
          · rw [hcontent, hparse]
          · simp only [Unpacked.target, hd] at hdescriptor
            rw [hd, hdescriptor]
        | otherType =>
          rw [hunpack] at hholds
          exact hholds.elim
        | malformed part =>
          rw [hunpack] at hholds htype
          exact absurd htype hholds

end Accepting

/-! ### A wire format

Messages of one byte a field, for the frames below. -/

/-- The type of what is packed, and its bytes. -/
structure WireAny where
  type : UInt8
  value : List UInt8
  deriving DecidableEq

def wireType : Control.MessageType → UInt8
  | .unknown => 0
  | .descriptor => 1
  | .setSession => 2
  | .status => 3
  | .deviceList => 4
  | .sessionList => 5

def typeOfWire (byte : UInt8) : Control.MessageType :=
  if byte = 1 then .descriptor
  else if byte = 2 then .setSession
  else if byte = 3 then .status
  else if byte = 4 then .deviceList
  else if byte = 5 then .sessionList
  else .unknown

def wireRecipient : Recipient → UInt8
  | .any => 0
  | .monitor => 1
  | .collector => 2
  | .control => 3

def recipientOfWire (byte : UInt8) : Recipient :=
  if byte = 1 then .monitor
  else if byte = 2 then .collector
  else if byte = 3 then .control
  else .any

/-- An envelope of no bytes is one with no message. -/
def wire : Protobuf WireAny (List UInt8) where
  packDescriptor d := ⟨1, d⟩
  unpackDescriptor any := if any.type = 1 then .unpacked any.value else .otherType
  packMessage m := ⟨2, wireType m.type :: m.data.type :: m.data.value⟩
  unpackMessage any :=
    if any.type = 2 then
      match any.value with
      | type :: dataType :: value => .unpacked ⟨typeOfWire type, ⟨dataType, value⟩⟩
      | _ => .malformed ⟨.unknown, ⟨0, []⟩⟩
    else .otherType
  serialize e := wireRecipient e.target :: wireRecipient e.origin :: e.mesg.type :: e.mesg.value
  parse
    | [] => some ⟨.any, .any, ⟨0, []⟩⟩
    | target :: origin :: type :: value =>
      some ⟨recipientOfWire target, recipientOfWire origin, ⟨type, value⟩⟩
    | _ => none

lemma wire_lawful : wire.Lawful where
  unpack_descriptor _ := rfl
  unpack_message m := by
    obtain ⟨type, data⟩ := m
    cases type <;> rfl
  parse_serialize e := by
    obtain ⟨target, origin, mesg⟩ := e
    cases target <;> cases origin <;> rfl

lemma envelopeSize_wire (d : List UInt8) : envelopeSize wire d = d.length + 5 := rfl

theorem descriptor_framing_pid : FramingRoundTrips wire [7, 3] :=
  (descriptor_framing wire_lawful [7, 3]).mpr (by decide)

/-- An envelope of 1017 bytes is sent with the byte behind the buffer. -/
theorem descriptor_framing_overrun : ¬ FramingRoundTrips wire (List.replicate 1012 0) := by
  generalize hd : List.replicate 1012 (0 : UInt8) = d
  intro h
  have hsize : envelopeSize wire d = 1017 := by
    rw [envelopeSize_wire, ← hd, List.length_replicate]
  have hsend := h (fun _ => 0) []
  rw [sendControlDescriptor_eq, hsize, if_neg (by decide)] at hsend
  have hfits : 1017 + headerSize ≤ descBufferSize := hsend.2.1
  exact absurd hfits (by decide)

/-- A client that sends eight zeros is admitted. -/
theorem descriptors_accepted_empty : ¬ AcceptsDescriptors wire (List.replicate 8 0) [] := by
  intro h
  have hnumber : ∀ others, Varint.decode 10 ([0] ++ others) = some (0, others) := fun _ => rfl
  have hreceive : receiveEnvelope ([0] ++ List.replicate 7 0) = some ([], []) :=
    received_of_header hnumber (by decide) (by decide) (by decide)
  have hread : readControlDescriptor wire (List.replicate 8 0) [] = some ([], []) := by
    have hstream : List.replicate 8 0 = [0] ++ List.replicate 7 (0 : UInt8) := rfl
    rw [readControlDescriptor, hstream, hreceive]
    rfl
  obtain ⟨frame, hstream, size, content, envelope, message, hframe, -, hparse, hmessage, -⟩ :=
    h [] [] hread
  rw [List.append_nil] at hstream
  rw [← hstream] at hframe
  have hsize : readVarint32 (List.replicate 8 0) = some (0, List.replicate 7 0) := rfl
  rw [hsize, Option.some.injEq, Prod.mk.injEq] at hframe
  rw [← hframe.1, List.take_zero] at hparse
  rw [← Option.some.inj hparse] at hmessage
  cases hmessage

end TkmCollector.Proofs
