import Lidar.Proofs.Capture.Calls
import Lidar.Source.Memory
import Mathlib.Data.List.Induction

namespace Lidar

open Capture (Call)

class Rewindable (σ : Type) extends PacketSource σ where
  reset : σ → σ

instance : Rewindable MemorySource := { reset := MemorySource.reset }

instance : Rewindable Capture := { reset := Capture.reset }

namespace Rewindable

section Requests

variable {σ : Type} [Rewindable σ]

def apply (s : σ) : Call → σ
  | .next => (PacketSource.next s).2
  | .reset => reset s

def after (s : σ) (calls : List Call) : σ := calls.foldl apply s

/-- The answer to a request that follows some calls. -/
def answer (s : σ) (calls : List Call) : Pull := (PacketSource.next (after s calls)).1

/-- The requests since the last reset, or since the first call. -/
def sinceReset (calls : List Call) : Nat :=
  calls.foldl (fun k call => match call with | .next => k + 1 | .reset => 0) 0

/-- Asked again and again, the source hands out these packets, and is exhausted then. -/
structure Yields (s : σ) (us : List (Address × Bytes)) : Prop where
  packet : ∀ k (hk : k < us.length),
    answer s (List.replicate k .next) = .packet us[k].1 us[k].2
  exhausted : answer s (List.replicate us.length .next) = .exhausted

/-- The second source is the first one in a loop: it goes round the packets which that one yields,
and starts again with each reset. Without any packet its first answer is exhaustion. -/
structure Loops (once looped : σ) : Prop where
  yields : ∃ us, Yields once us
  round : ∀ us, Yields once us → us ≠ [] → ∀ calls : List Call,
    ∃ u, us[sinceReset calls % us.length]? = some u ∧ answer looped calls = .packet u.1 u.2
  empty : Yields once [] → answer looped [] = .exhausted

variable {s : σ} {us vs : List (Address × Bytes)}

theorem after_append (calls more : List Call) :
    after s (calls ++ more) = after (after s calls) more := List.foldl_append

theorem after_replicate_succ (k : Nat) :
    after s (List.replicate (k + 1) .next) =
      (PacketSource.next (after s (List.replicate k .next))).2 := by
  rw [List.replicate_succ', after_append]
  rfl

/-- Behind the shorter list the source is exhausted, so the other one does not go on. -/
theorem Yields.length_le (h : Yields s us) (h' : Yields s vs) : us.length ≤ vs.length := by
  by_contra shorter
  have handed := h.packet vs.length (Nat.lt_of_not_le shorter)
  rw [h'.exhausted] at handed
  cases handed

/-- What a source yields is told by its answers. -/
theorem Yields.unique (h : Yields s us) (h' : Yields s vs) : us = vs := by
  have same : us.length = vs.length := Nat.le_antisymm (h.length_le h') (h'.length_le h)
  apply List.ext_getElem same
  intro k hk hk'
  have handed := (h.packet k hk).symm.trans (h'.packet k hk')
  obtain ⟨sender, payload⟩ := Pull.packet.inj handed
  exact Prod.ext sender payload

/-- A relation to the number of requests that each request carries on. -/
theorem yields_of_steps (R : σ → Nat → Prop) (start : R s 0)
    (step : ∀ (s : σ) k (hk : k < us.length), R s k →
      (PacketSource.next s).1 = .packet us[k].1 us[k].2 ∧ R (PacketSource.next s).2 (k + 1))
    (last : ∀ s : σ, R s us.length → (PacketSource.next s).1 = .exhausted) : Yields s us := by
  have reached (k : Nat) (hk : k ≤ us.length) : R (after s (List.replicate k .next)) k := by
    induction k with
    | zero => exact start
    | succ k ih =>
      have here := ih (Nat.le_of_succ_le hk)
      rw [after_replicate_succ]
      exact (step _ k hk here).2
  constructor
  · intro k hk
    exact (step _ k hk (reached k (Nat.le_of_lt hk))).1
  · exact last _ (reached us.length (Nat.le_refl _))

theorem sinceReset_next (calls : List Call) :
    sinceReset (calls ++ [.next]) = sinceReset calls + 1 := by
  rw [sinceReset, List.foldl_append]
  rfl

theorem sinceReset_reset (calls : List Call) : sinceReset (calls ++ [.reset]) = 0 := by
  rw [sinceReset, List.foldl_append]
  rfl

/-- A relation to the number of requests since the last reset, which each request carries on and
each reset starts anew, holds after any calls. -/
theorem after_related (R : σ → Nat → Prop) (start : R s 0)
    (step : ∀ (s : σ) k, R s k → R (PacketSource.next s).2 (k + 1))
    (again : ∀ (s : σ) k, R s k → R (reset s) 0) (calls : List Call) :
    R (after s calls) (sinceReset calls) := by
  induction calls using List.reverseRecOn with
  | nil => exact start
  | append_singleton calls call ih =>
    rw [after_append]
    cases call with
    | next =>
      rw [sinceReset_next]
      exact step _ _ ih
    | reset =>
      rw [sinceReset_reset]
      exact again _ _ ih

theorem Loops.of_yields {once looped : σ} (h : Yields once us)
    (round : us ≠ [] → ∀ calls : List Call,
      ∃ u, us[sinceReset calls % us.length]? = some u ∧ answer looped calls = .packet u.1 u.2)
    (empty : us = [] → answer looped [] = .exhausted) : Loops once looped := by
  refine ⟨⟨us, h⟩, ?_, ?_⟩
  · intro vs h' filled calls
    obtain rfl := h.unique h'
    exact round filled calls
  · intro h'
    exact empty (h.unique h')

end Requests

end Rewindable

namespace MemorySource

open Rewindable

variable (packets : Array Bytes) (sender : Address)

/-- The packets with the sender they seem to come from. -/
def sent : List (Address × Bytes) := packets.toList.map fun p => (sender, p)

theorem length_sent : (sent packets sender).length = packets.size := by
  rw [sent, List.length_map, Array.length_toList]

theorem getElem?_sent (k : Nat) :
    (sent packets sender)[k]? = packets[k]?.map fun p => (sender, p) := by
  rw [sent, List.getElem?_map, Array.getElem?_toList]

theorem next_inside {s : MemorySource} (h : s.position < s.packets.size) :
    s.next = (.packet s.sender s.packets[s.position], { s with position := s.position + 1 }) := by
  have stays : ¬(s.looped ∧ s.packets.size ≤ s.position) := fun restart => by omega
  rw [next, if_neg stays, Array.getElem?_eq_getElem h]

theorem next_restarts {s : MemorySource} (some : 0 < s.packets.size) (again : s.looped = true)
    (h : s.packets.size ≤ s.position) :
    s.next = (.packet s.sender s.packets[0], { s with position := 1 }) := by
  rw [next, if_pos ⟨again, h⟩, Array.getElem?_eq_getElem some]

theorem next_behind {s : MemorySource} (once : s.looped = false)
    (h : s.packets.size ≤ s.position) : s.next.1 = .exhausted := by
  have stays : ¬(s.looped ∧ s.packets.size ≤ s.position) := fun restart => by
    simp [once] at restart
  rw [next, if_neg stays, Array.getElem?_eq_none h]

theorem yields_sent : Yields { packets, sender : MemorySource } (sent packets sender) := by
  apply yields_of_steps fun s k => s = { packets, position := k, sender }
  · rfl
  · intro s k hk here
    subst here
    have inside : k < packets.size := by rwa [length_sent] at hk
    have answered := next_inside (s := { packets, position := k, sender }) inside
    have handed : (sent packets sender)[k] = (sender, packets[k]) := by
      simp only [sent, List.getElem_map, Array.getElem_toList]
    rw [handed]
    exact ⟨congrArg Prod.fst answered, congrArg Prod.snd answered⟩
  · intro s here
    subst here
    rw [length_sent]
    exact next_behind rfl (Nat.le_refl _)

/-- A looped source after `k` requests: at most behind the last packet, and in step with `k`. -/
structure Round (s : MemorySource) (k : Nat) : Prop where
  same : s = { packets, position := s.position, looped := true, sender }
  within : s.position ≤ packets.size
  inStep : s.position % packets.size = k % packets.size

variable {packets sender}

theorem Round.next {s : MemorySource} {k : Nat} (h : Round packets sender s k)
    (some : 0 < packets.size) :
    (∃ p, packets[k % packets.size]? = .some p ∧ s.next.1 = .packet sender p) ∧
      Round packets sender s.next.2 (k + 1) := by
  obtain ⟨same, within, inStep⟩ := h
  generalize s.position = position at same within inStep
  subst same
  rcases Nat.lt_or_eq_of_le within with inside | behind
  · have here : k % packets.size = position := by rw [← inStep, Nat.mod_eq_of_lt inside]
    rw [next_inside inside]
    refine ⟨⟨packets[position], ?_, rfl⟩, rfl, inside, ?_⟩
    · rw [here, Array.getElem?_eq_getElem inside]
    · show (position + 1) % packets.size = (k + 1) % packets.size
      rw [Nat.add_mod, inStep, ← Nat.add_mod]
  · have first : k % packets.size = 0 := by rw [← inStep, behind, Nat.mod_self]
    rw [next_restarts some rfl (Nat.le_of_eq behind.symm)]
    refine ⟨⟨packets[0], ?_, rfl⟩, rfl, some, ?_⟩
    · rw [first, Array.getElem?_eq_getElem some]
    · show 1 % packets.size = (k + 1) % packets.size
      rw [Nat.add_mod, first, Nat.zero_add, Nat.mod_mod]

theorem Round.reset {s : MemorySource} {k : Nat} (h : Round packets sender s k) :
    Round packets sender s.reset 0 := by
  obtain ⟨same, -, -⟩ := h
  rw [same]
  exact ⟨rfl, Nat.zero_le _, rfl⟩

theorem loops (packets : Array Bytes) (sender : Address) :
    Loops { packets, sender : MemorySource } { packets, looped := true, sender } := by
  apply Loops.of_yields (yields_sent packets sender)
  · intro filled calls
    have some : 0 < packets.size := by
      rw [← length_sent packets sender]
      exact List.length_pos_iff.2 filled
    have start : Round packets sender { packets, looped := true, sender } 0 :=
      ⟨rfl, Nat.zero_le _, rfl⟩
    have there := after_related (Round packets sender) start
      (fun s k h => (h.next some).2) (fun s k h => h.reset) calls
    obtain ⟨p, found, handed⟩ := (there.next some).1
    refine ⟨(sender, p), ?_, handed⟩
    rw [getElem?_sent, length_sent, found]
    rfl
  · intro none
    have empty : packets.size = 0 := by rw [← length_sent packets sender, none, List.length_nil]
    have none : packets[0]? = Option.none := Array.getElem?_eq_none (Nat.le_of_eq empty)
    show (MemorySource.next { packets, looped := true, sender }).1 = .exhausted
    simp only [MemorySource.next, ite_self, none]

end MemorySource

end Lidar
