import Lidar.Proofs.Capture.Walk

namespace Lidar.Capture

/-- The frame carries a packet of Internet protocol version 4 from `ip` on, behind at most one
tag. -/
inductive Ethernet.Links (frame : Bytes) : Nat → Prop
  | plain (type : frame.bigEndian16? 12 = some 0x0800) : Links frame 14
  | tagged (tag : frame.bigEndian16? 12 = some 0x8100)
      (type : frame.bigEndian16? 16 = some 0x0800) : Links frame 18

/-- A datagram stands in a frame, behind an Internet header at `ip` that states a length of `words`
words. -/
structure Layers (frame : Bytes) (ip words : Nat) (d : Datagram) : Prop where
  link : Ethernet.Links frame ip
  /-- The halves of the first byte are the version and the length of the header. -/
  version : ∃ first, frame[ip]? = some first ∧ first.toNat / 16 = 4 ∧ first.toNat % 16 = words
  protocol : frame[ip + 9]? = some 17
  complete : ip + 4 * words + 8 ≤ frame.size
  /-- The length in the UDP header counts this header too. -/
  payload : ∃ length, frame.bigEndian16? (ip + 4 * words + 4) = some length ∧
    8 ≤ length.toNat ∧ ip + 4 * words + length.toNat ≤ frame.size ∧
    d.start = ip + 4 * words + 8 ∧ d.length = length.toNat - 8
  sender : ∃ source port, d.sender = .v4 source port ∧
    (frame[ip + 12]? = some source.a ∧ frame[ip + 13]? = some source.b ∧
      frame[ip + 14]? = some source.c ∧ frame[ip + 15]? = some source.d) ∧
    frame.bigEndian16? (ip + 4 * words) = some port

/-- The fewest words of an Internet header. -/
def fewestWords : Nat := 5

/-- A datagram whose Internet header has its full length. -/
def Genuine (frame : Bytes) (d : Datagram) : Prop :=
  ∃ ip words, fewestWords ≤ words ∧ Layers frame ip words d

/-- A frame read as a datagram although its Internet header states less than its full length. Only
the bytes of a full header have to be there. -/
def Misread (frame : Bytes) (d : Datagram) : Prop :=
  ∃ ip words, words < fewestWords ∧ ip + 4 * fewestWords ≤ frame.size ∧ Layers frame ip words d

theorem version_iff_halves (first : UInt8) : first >>> 4 = 4 ↔ first.toNat / 16 = 4 := by
  rw [← UInt8.toNat_inj, UInt8.toNat_shiftRight, Nat.shiftRight_eq_div_pow]
  exact Iff.rfl

theorem words_eq_half (first : UInt8) : (first &&& 0x0F).toNat = first.toNat % 16 := by
  rw [UInt8.toNat_and]
  exact Nat.and_two_pow_sub_one_eq_mod _ 4

section Frame

variable {frame : Bytes} {ip words : Nat} {d : Datagram}

theorem Ethernet.links_iff : Ethernet.Links frame ip ↔
    frame.bigEndian16? 12 = some Ethernet.typeIPv4 ∧ ip = 14 ∨
      frame.bigEndian16? 12 = some Ethernet.typeVlan ∧
        frame.bigEndian16? 16 = some Ethernet.typeIPv4 ∧ ip = 18 := by
  constructor
  · intro links
    cases links with
    | plain type => exact .inl ⟨type, rfl⟩
    | tagged tag type => exact .inr ⟨tag, type, rfl⟩
  · rintro (⟨type, rfl⟩ | ⟨tag, type, rfl⟩)
    · exact .plain type
    · exact .tagged tag type

theorem Layers.behind (layers : Layers frame ip words d) :
    d.start = ip + 4 * words + 8 ∧ d.start + d.length ≤ frame.size := by
  obtain ⟨length, -, enough, fits, start, size⟩ := layers.payload
  omega

/-- The layers are those of the search, which asks for the bytes of a full Internet header but not
for its length. -/
theorem datagram?_eq_some_iff_layers :
    datagram? frame = some d ↔
      ∃ ip words, ip + 4 * fewestWords ≤ frame.size ∧ Layers frame ip words d := by
  rw [datagram?_eq_some_iff_carries]
  constructor
  · intro found
    obtain ⟨ip, udp, length, source, port, carried, rfl⟩ := found
    obtain ⟨first, there, version, place⟩ := carried.first
    rw [words_eq_half, Nat.mul_comm] at place
    subst place
    exact ⟨ip, first.toNat % 16, carried.whole, {
      link := Ethernet.links_iff.2 carried.type
      version := ⟨first, there, (version_iff_halves first).1 version, rfl⟩
      protocol := carried.protocol
      complete := carried.room
      payload := ⟨length, carried.stated, carried.long, carried.fits, rfl, rfl⟩
      sender := ⟨source, port, rfl, carried.source, carried.sourcePort⟩ }⟩
  · intro found
    obtain ⟨ip, words, whole, layers⟩ := found
    obtain ⟨first, there, version, rfl⟩ := layers.version
    obtain ⟨length, stated, long, fits, start, size⟩ := layers.payload
    obtain ⟨source, port, sender, bytes, portBytes⟩ := layers.sender
    refine ⟨ip, ip + 4 * (first.toNat % 16), length, source, port, {
      type := Ethernet.links_iff.1 layers.link
      whole
      first := ⟨first, there, (version_iff_halves first).2 version, by
        rw [words_eq_half, Nat.mul_comm]⟩
      protocol := layers.protocol
      source := bytes
      sourcePort := portBytes
      stated
      room := layers.complete
      long, fits }, ?_⟩
    obtain ⟨address, from', count⟩ := d
    cases sender
    cases start
    cases size
    rfl

theorem datagram?_eq_some_iff_genuine_or_misread :
    datagram? frame = some d ↔ Genuine frame d ∨ Misread frame d := by
  rw [datagram?_eq_some_iff_layers]
  constructor
  · intro found
    obtain ⟨ip, words, whole, layers⟩ := found
    rcases Nat.lt_or_ge words fewestWords with short | full
    · exact .inr ⟨ip, words, short, whole, layers⟩
    · exact .inl ⟨ip, words, full, layers⟩
  · rintro (⟨ip, words, full, layers⟩ | ⟨ip, words, -, whole, layers⟩)
    · have complete := layers.complete
      exact ⟨ip, words, by omega, layers⟩
    · exact ⟨ip, words, whole, layers⟩

theorem Ethernet.Links.unique {ip' : Nat} (h : Ethernet.Links frame ip)
    (h' : Ethernet.Links frame ip') : ip = ip' := by
  have distinct : (0x0800 : UInt16) ≠ 0x8100 := by decide
  cases h with
  | plain type =>
    cases h' with
    | plain => rfl
    | tagged tag => exact absurd (Option.some.inj (type.symm.trans tag)) distinct
  | tagged tag =>
    cases h' with
    | plain type => exact absurd (Option.some.inj (type.symm.trans tag)) distinct
    | tagged => rfl

/-- The frame alone settles how long its Internet header says it is. -/
theorem Layers.unique {ip' words' : Nat} {d' : Datagram} (layers : Layers frame ip words d)
    (layers' : Layers frame ip' words' d') : ip = ip' ∧ words = words' := by
  have same := layers.link.unique layers'.link
  subst same
  obtain ⟨first, there, -, half⟩ := layers.version
  obtain ⟨first', there', -, half'⟩ := layers'.version
  obtain rfl := Option.some.inj (there.symm.trans there')
  exact ⟨rfl, half.symm.trans half'⟩

theorem Genuine.not_misread {d' : Datagram} (genuine : Genuine frame d) : ¬Misread frame d' := by
  intro misread
  obtain ⟨ip, words, full, layers⟩ := genuine
  obtain ⟨ip', words', short, -, layers'⟩ := misread
  have same := (layers.unique layers').2
  omega

/-- The payload of a genuine datagram lies behind a full Internet header and a UDP header, and ends
inside the frame. -/
theorem Genuine.behind_headers (genuine : Genuine frame d) :
    (∀ ip, Ethernet.Links frame ip → ip + 28 ≤ d.start) ∧ d.start + d.length ≤ frame.size := by
  obtain ⟨ip, words, full, layers⟩ := genuine
  obtain ⟨start, inside⟩ := layers.behind
  refine ⟨fun ip' links => ?_, inside⟩
  have same := layers.link.unique links
  rw [fewestWords] at full
  omega

end Frame

theorem Record.delivery?_eq_none_iff {r : Record} :
    r.delivery? = none ↔ r.header.stored < r.header.sent ∨ datagram? r.frame = none := by
  rw [Record.delivery?]
  split_ifs with cut
  · simp [cut]
  · simp [cut]

theorem readRecord_eq_passed_iff {b : Bytes} {i : Nat} {r : Record} (h : record? b i = some r) :
    readRecord b i = .passed (i + r.size) ↔ r.delivery? = none := by
  constructor
  · intro passed
    cases delivered : r.delivery? with
    | none => rfl
    | some d =>
      obtain ⟨range, found, -⟩ := readRecord_finds h delivered
      rw [passed] at found
      cases found
  · intro nothing
    exact readRecord_passes h nothing

/-- A frame is taken for a datagram if it is a genuine one, with its payload behind all headers and
inside the frame, or if its Internet header states less than its full length; no frame is both. All
other records are passed over. -/
theorem found_iff_genuine_or_misread (frame : Bytes) :
    (∀ d, datagram? frame = some d ↔ Genuine frame d ∨ Misread frame d) ∧
      (∀ d, Genuine frame d → (∀ d', ¬Misread frame d') ∧
        (∀ ip, Ethernet.Links frame ip → ip + 28 ≤ d.start) ∧ d.start + d.length ≤ frame.size) ∧
      ∀ b i r, record? b i = some r → r.frame = frame →
        (readRecord b i = .passed (i + r.size) ↔
          r.header.stored < r.header.sent ∨ ∀ d, ¬Genuine frame d ∧ ¬Misread frame d) := by
  refine ⟨fun d => datagram?_eq_some_iff_genuine_or_misread, ?_, ?_⟩
  · intro d genuine
    exact ⟨fun d' => genuine.not_misread, genuine.behind_headers⟩
  · intro b i r h same
    rw [readRecord_eq_passed_iff h, Record.delivery?_eq_none_iff, Option.eq_none_iff_forall_ne_some,
      same]
    apply or_congr_right
    apply forall_congr'
    intro d
    rw [ne_eq, datagram?_eq_some_iff_genuine_or_misread, not_or]

/-- A frame whose Internet header states a length of zero words. -/
def shortHeaderFrame : Bytes :=
  #[0, 0, 0, 0, 0, 0, 0, 0, 0, 0, 0, 0, 8, 0,
    0x40, 0, 0, 0x14, 0, 0x14, 0, 0, 0x40, 0x11, 0, 0, 0x0a, 0, 0, 1, 0x0a, 0, 0, 2]

/-- The port is read from the first bytes of the Internet header, and the payload is the rest of
that header. -/
theorem misread_shortHeaderFrame :
    datagram? shortHeaderFrame = some ⟨.v4 ⟨10, 0, 0, 1⟩ 0x4000, 22, 12⟩ ∧
      ∀ d, ¬Genuine shortHeaderFrame d := by
  refine ⟨by decide, ?_⟩
  have misread : Misread shortHeaderFrame ⟨.v4 ⟨10, 0, 0, 1⟩ 0x4000, 22, 12⟩ :=
    ⟨14, 0, by decide, by decide, {
      link := .plain rfl
      version := ⟨0x40, rfl, rfl, rfl⟩
      protocol := rfl
      complete := by decide
      payload := ⟨20, rfl, by decide, by decide, rfl, rfl⟩
      sender := ⟨⟨10, 0, 0, 1⟩, 0x4000, rfl, ⟨rfl, rfl, rfl, rfl⟩, rfl⟩ }⟩
  intro d genuine
  exact genuine.not_misread misread

end Lidar.Capture
