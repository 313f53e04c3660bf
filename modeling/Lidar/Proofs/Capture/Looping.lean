import Lidar.Proofs.Capture.Replay
import Lidar.Proofs.Source.Looping

namespace Lidar.Capture

open Rewindable

/-- The packets that the complete records of a file deliver. -/
def packets (b : Bytes) : List (Address × Bytes) :=
  (deliveries b headerSize).map fun d => (d.sender, d.payload)

/-- The time stamps of the datagrams can be converted. -/
def Timely (b : Bytes) (nanoseconds : Bool) : Prop :=
  ∀ d ∈ deliveries b headerSize, d.Fits nanoseconds

variable {b : Bytes} {nanoseconds looped : Bool}

theorem length_packets : (packets b).length = (deliveries b headerSize).length :=
  List.length_map _

theorem packets_eq_nil : packets b = [] ↔ deliveries b headerSize = [] := List.map_eq_nil_iff

/-- A capture of the file, opened one way or the other, wherever it stands. -/
def OpenedFrom (b : Bytes) (nanoseconds looped : Bool) (c : Capture) : Prop :=
  ∃ position payload, c = { opened b nanoseconds looped with position, payload }

/-- The datagrams from the `j`-th on are ahead. -/
structure Ahead (b : Bytes) (nanoseconds looped : Bool) (c : Capture) (j : Nat) : Prop where
  same : OpenedFrom b nanoseconds looped c
  ahead : deliveries c.bytes c.position = (deliveries b headerSize).drop j

theorem Ahead.ofOpened : Ahead b nanoseconds looped (opened b nanoseconds looped) 0 :=
  ⟨⟨headerSize, (0, 0), rfl⟩, rfl⟩

theorem Ahead.reset {c : Capture} {j : Nat} (h : Ahead b nanoseconds looped c j) :
    Ahead b nanoseconds looped c.reset 0 := by
  obtain ⟨⟨position, payload, rfl⟩, -⟩ := h
  exact ⟨⟨headerSize, payload, rfl⟩, rfl⟩

/-- The answer that hands out the `j`-th packet. -/
theorem answer_packets (timely : Timely b nanoseconds) {c : Capture} {j : Nat}
    (same : OpenedFrom b nanoseconds looped c) (hj : j < (packets b).length)
    (hd : j < (deliveries b headerSize).length) :
    c.answerOf (deliveries b headerSize)[j] = .packet (packets b)[j].1 (packets b)[j].2 := by
  obtain ⟨position, payload, rfl⟩ := same
  rw [answerOf_of_fits (timely _ (List.getElem_mem hd))]
  simp only [packets, List.getElem_map]
  rfl

theorem Ahead.next (timely : Timely b nanoseconds) {c : Capture} {j : Nat}
    (h : Ahead b nanoseconds looped c j) (hj : j < (packets b).length) :
    c.next.1 = .packet (packets b)[j].1 (packets b)[j].2 ∧
      Ahead b nanoseconds looped c.next.2 (j + 1) ∧ c.next.2.payload.1 ≠ 0 := by
  have hd : j < (deliveries b headerSize).length := by rwa [length_packets] at hj
  have ahead := h.ahead
  rw [List.drop_eq_getElem_cons hd] at ahead
  obtain ⟨stop, range, found, given, rest, -⟩ := next_finds ahead
  have answered := answer_packets timely h.same hj hd
  obtain ⟨position, payload, rfl⟩ := h.same
  rw [found]
  exact ⟨answered, ⟨⟨stop, range, rfl⟩, rest⟩, given⟩

theorem yields_packets (timely : Timely b nanoseconds) :
    Yields (opened b nanoseconds false) (packets b) := by
  apply yields_of_steps (Ahead b nanoseconds false)
  · exact Ahead.ofOpened
  · intro c k hk h
    obtain ⟨answered, there, -⟩ := h.next timely hk
    exact ⟨answered, there⟩
  · intro c h
    have none : deliveries c.bytes c.position = [] := by
      rw [h.ahead, length_packets, List.drop_length]
    have once : ¬(c.looped ∧ c.payload.1 ≠ 0) := by
      obtain ⟨position, payload, rfl⟩ := h.same
      intro again
      cases again.1
    exact congrArg Prod.fst (next_rests none once)

/-- A looped capture after `k` requests: in step with `k`, and ready to start over once it stands
behind the last datagram. -/
structure Round (b : Bytes) (nanoseconds : Bool) (c : Capture) (k : Nat) : Prop where
  stands : ∃ j ≤ (packets b).length, Ahead b nanoseconds true c j ∧
    (j = (packets b).length → c.payload.1 ≠ 0) ∧
    j % (packets b).length = k % (packets b).length

theorem Round.ofAhead (some : 0 < (packets b).length) {c : Capture}
    (h : Ahead b nanoseconds true c 0) : Round b nanoseconds c 0 :=
  ⟨0, Nat.zero_le _, h, fun none => absurd none (Nat.ne_of_lt some), rfl⟩

theorem Round.reset (some : 0 < (packets b).length) {c : Capture} {k : Nat}
    (h : Round b nanoseconds c k) : Round b nanoseconds c.reset 0 := by
  obtain ⟨j, -, ahead, -, -⟩ := h
  exact .ofAhead some ahead.reset

/-- A request behind the last datagram is the first request after a reset. -/
theorem Round.next (timely : Timely b nanoseconds) (some : 0 < (packets b).length) {c : Capture}
    {k : Nat} (h : Round b nanoseconds c k) :
    (∃ u, (packets b)[k % (packets b).length]? = .some u ∧ c.next.1 = .packet u.1 u.2) ∧
      Round b nanoseconds c.next.2 (k + 1) := by
  obtain ⟨j, within, ahead, given, inStep⟩ := h
  rcases Nat.lt_or_eq_of_le within with inside | behind
  · have here : k % (packets b).length = j := by rw [← inStep, Nat.mod_eq_of_lt inside]
    obtain ⟨answered, there, paid⟩ := ahead.next timely inside
    refine ⟨⟨(packets b)[j], ?_, answered⟩, j + 1, inside, there, fun _ => paid, ?_⟩
    · rw [here, List.getElem?_eq_getElem inside]
    · rw [Nat.add_mod, inStep, ← Nat.add_mod]
  · have first : k % (packets b).length = 0 := by rw [← inStep, behind, Nat.mod_self]
    have none : deliveries c.bytes c.position = [] := by
      rw [ahead.ahead, behind, length_packets, List.drop_length]
    have restarted : c.next = c.reset.next := by
      have paid := given behind
      obtain ⟨position, payload, rfl⟩ := ahead.same
      apply next_eq_next_reset none ⟨rfl, paid⟩
      intro empty
      rw [length_packets] at some
      exact absurd (congrArg List.length empty) (Nat.ne_of_gt some)
    obtain ⟨answered, there, paid⟩ := ahead.reset.next timely some
    rw [restarted]
    refine ⟨⟨(packets b)[0], ?_, answered⟩, 1, some, there, fun _ => paid, ?_⟩
    · rw [first, List.getElem?_eq_getElem some]
    · rw [Nat.add_mod, first, Nat.zero_add, Nat.mod_mod]

theorem loops (timely : Timely b nanoseconds) :
    Loops (opened b nanoseconds false) (opened b nanoseconds true) := by
  apply Loops.of_yields (yields_packets timely)
  · intro filled calls
    have some : 0 < (packets b).length := List.length_pos_iff.2 filled
    have there := after_related (Round b nanoseconds) (.ofAhead some .ofOpened)
      (fun c k h => (h.next timely some).2) (fun c k h => h.reset some) calls
    exact (there.next timely some).1
  · intro none
    have silent : deliveries b headerSize = [] := packets_eq_nil.1 none
    have unpaid : ¬((opened b nanoseconds true).looped ∧
        (opened b nanoseconds true).payload.1 ≠ 0) := fun again => again.2 rfl
    exact congrArg Prod.fst (next_rests (c := opened b nanoseconds true) silent unpaid)

/-- Replaying in a loop repeats what is replayed once, for every list of packets in memory and
every file that opens as a capture and whose time stamps can be converted: the request that comes
`k` requests after the last reset is answered with the `k`-th packet, counted round. What is
replayed once are the packets of the list, and the datagrams of the complete records. -/
theorem looped_replay_repeats :
    (∀ listed sender,
      Yields { packets := listed, sender : MemorySource } (MemorySource.sent listed sender) ∧
      Loops { packets := listed, sender : MemorySource }
        { packets := listed, looped := true, sender }) ∧
      ∀ b once, ofFile b false = .ok once →
        Timely b once.nanoseconds →
        Yields once (packets b) ∧ ∃ looped, ofFile b true = .ok looped ∧ Loops once looped := by
  refine ⟨?_, ?_⟩
  · intro listed sender
    exact ⟨MemorySource.yields_sent listed sender, MemorySource.loops listed sender⟩
  · intro b once accepted timely
    obtain ⟨nanoseconds, headed, rfl⟩ := ofFile_eq_ok_iff.1 accepted
    exact ⟨yields_packets timely, opened b nanoseconds true,
      ofFile_eq_ok_iff.2 ⟨nanoseconds, headed, rfl⟩, loops timely⟩

/-- The third request in a row goes round, unless a reset has started the count again. -/
theorem looped_replay_repeats_mixedRecording :
    ∃ once looped, ofFile mixedRecording.file false = .ok once ∧
      ofFile mixedRecording.file true = .ok looped ∧
      Timely mixedRecording.file once.nanoseconds ∧
      Loops once looped ∧
      answer looped [.next, .next] = .packet (.v4 ⟨192, 168, 1, 201⟩ 10110) #[0xEE, 0xFF, 1] ∧
      answer looped [.next, .reset, .next, .next, .next] =
        .packet (.v4 ⟨192, 168, 1, 201⟩ 10110) #[0xEE, 0xFF, 2, 3] := by
  have timely : Timely mixedRecording.file false := by
    rw [Timely, mixedRecording.deliveries_file]
    decide
  have accepted : ofFile mixedRecording.file false = .ok (opened mixedRecording.file false false) :=
    ofFile_eq_ok_iff.2 ⟨false, mixedRecording.headed, rfl⟩
  obtain ⟨handed, looped, opens, loops⟩ := looped_replay_repeats.2 _ _ accepted timely
  have yields : Yields (opened mixedRecording.file false false)
      [(.v4 ⟨192, 168, 1, 201⟩ 10110, #[0xEE, 0xFF, 1]),
        (.v4 ⟨192, 168, 1, 201⟩ 10110, #[0xEE, 0xFF, 2, 3])] := by
    rw [packets, mixedRecording.deliveries_file] at handed
    exact handed
  obtain ⟨u, third, handed⟩ := loops.round _ yields (by decide) [.next, .next]
  obtain ⟨v, second, handed'⟩ :=
    loops.round _ yields (by decide) [.next, .reset, .next, .next, .next]
  obtain rfl := Option.some.inj third
  obtain rfl := Option.some.inj second
  exact ⟨_, looped, accepted, opens, timely, loops, handed, handed'⟩

end Lidar.Capture
