import BoundedStream.Program.Produce
import BoundedStream.Proofs.Program.Dialogue

/-!
# Deliveries are exact

Whatever an endpoint answers, a delivery offers just what was not accepted yet, so that what
was accepted is the beginning of the data, each byte once.  It ends well exactly when all of
the data was accepted.  Only answers that invite another try bring it no further, so that it
ends under every sequence of answers in which these are finitely many.
-/

namespace BoundedStream

/-- The error with which an answer to an offer ends a delivery. -/
def Exchange.verdict? : Exchange → Option CommandError
  | ⟨.send _, .ok count⟩ => if count.val = 0 then some Delivery.stalled else none
  | ⟨.send _, .error error⟩ => if error.invitesRetry then none else some (.stream error)
  | _ => none

namespace Delivery

variable {data rest : List UInt8} {exchanges : List Exchange} {delivery : Delivery}

/-- What an endpoint accepted, in order. -/
def accepted (exchanges : List Exchange) : List UInt8 :=
  exchanges.flatMap Exchange.accepted

/-- How many answers invited another try. -/
def retries (exchanges : List Exchange) : Nat := exchanges.countP Exchange.isRetry

theorem accepted_snoc (exchanges : List Exchange) (last : Exchange) :
    accepted (exchanges ++ [last]) = accepted exchanges ++ last.accepted := by
  simp [accepted]

theorem retries_append (first second : List Exchange) :
    retries (first ++ second) = retries first + retries second :=
  List.countP_append

theorem retries_snoc (exchanges : List Exchange) (last : Exchange) :
    retries (exchanges ++ [last]) = retries exchanges + if last.isRetry then 1 else 0 := by
  rw [retries_append]
  exact congrArg _ (List.countP_singleton ..)

theorem verdict?_snoc (exchanges : List Exchange) (last : Exchange) :
    (exchanges ++ [last]).findSome? Exchange.verdict? =
      (exchanges.findSome? Exchange.verdict?).or last.verdict? := by
  simp [List.findSome?_append]

/-- The rest of the data was not accepted yet, and nothing ended the delivery. -/
structure Offers (data : List UInt8) (exchanges : List Exchange) (rest : List UInt8) :
    Prop where
  positive : 0 < rest.length
  suffix : accepted exchanges ++ rest = data
  undecided : exchanges.findSome? Exchange.verdict? = none

theorem Offers.snoc_idle {last : Exchange} (offers : Offers data exchanges rest)
    (nothing : last.accepted = []) (undecided : last.verdict? = none) :
    Offers data (exchanges ++ [last]) rest where
  positive := offers.positive
  suffix := by rw [accepted_snoc, nothing, List.append_nil, offers.suffix]
  undecided := by rw [verdict?_snoc, offers.undecided, undecided, Option.none_or]

/-- Where a delivery of the data stands after the exchanges. -/
def Stands (data : List UInt8) (exchanges : List Exchange) : Delivery → Prop
  | .offering rest =>
    Offers data exchanges rest ∧
      exchanges.length + rest.length ≤ data.length + 2 * retries exchanges
  | .resting rest =>
    Offers data exchanges rest ∧
      exchanges.length + 1 + rest.length ≤ data.length + 2 * retries exchanges
  | .delivered =>
    accepted exchanges = data ∧ exchanges.findSome? Exchange.verdict? = none ∧
      exchanges.length ≤ data.length + 2 * retries exchanges
  | .failed error =>
    (∃ rest, 0 < rest.length ∧ accepted exchanges ++ rest = data) ∧
      exchanges.findSome? Exchange.verdict? = some error ∧
      exchanges.length ≤ data.length + 2 * retries exchanges

theorem stands_start (data : List UInt8) : Stands data [] (start data) := by
  cases data with
  | nil => exact ⟨rfl, rfl, Nat.zero_le _⟩
  | cons byte data => exact ⟨⟨Nat.succ_pos _, rfl, rfl⟩, by simp⟩

/-- An answer that accepts nothing and does not invite another try ends a delivery. -/
theorem stands_failed {last : Exchange} {error : CommandError}
    (stands : Stands data exchanges (.offering rest)) (nothing : last.accepted = [])
    (verdict : last.verdict? = some error) : Stands data (exchanges ++ [last]) (.failed error) := by
  obtain ⟨offers, near⟩ := stands
  refine ⟨⟨rest, offers.positive, ?_⟩, ?_, ?_⟩
  · rw [accepted_snoc, nothing, List.append_nil, offers.suffix]
  · rw [verdict?_snoc, offers.undecided, verdict, Option.none_or]
  · have positive := offers.positive
    rw [List.length_append, List.length_singleton, retries_snoc]
    omega

theorem stands_taken (stands : Stands data exchanges (.offering rest))
    (count : Fin (rest.length + 1)) :
    Stands data (exchanges ++ [⟨.send rest, .ok count⟩]) (answered rest (.ok count)) := by
  by_cases nothing : count.val = 0
  · simp only [answered, if_pos nothing]
    exact stands_failed stands (by simp [Exchange.accepted, nothing]) (if_pos nothing)
  · simp only [answered, if_neg nothing]
    obtain ⟨offers, near⟩ := stands
    let last : Exchange := ⟨.send rest, .ok count⟩
    have suffix : accepted (exchanges ++ [last]) ++ rest.drop count.val = data := by
      rw [accepted_snoc, List.append_assoc, ← offers.suffix]
      exact congrArg _ (List.take_append_drop count.val rest)
    have undecided : (exchanges ++ [last]).findSome? Exchange.verdict? = none := by
      rw [verdict?_snoc, offers.undecided, Option.none_or]
      exact if_neg nothing
    have near' : (exchanges ++ [last]).length + (rest.drop count.val).length ≤
        data.length + 2 * retries (exchanges ++ [last]) := by
      rw [List.length_append, List.length_singleton, List.length_drop, retries_snoc]
      omega
    cases left : rest.drop count.val with
    | nil =>
        rw [left] at suffix near'
        rw [List.append_nil] at suffix
        exact ⟨suffix, undecided, near'⟩
    | cons byte left' =>
        rw [left] at suffix near'
        exact ⟨⟨Nat.succ_pos _, suffix, undecided⟩, near'⟩

theorem stands_refused (stands : Stands data exchanges (.offering rest)) (error : StreamError) :
    Stands data (exchanges ++ [⟨.send rest, .error error⟩]) (answered rest (.error error)) := by
  by_cases again : error.invitesRetry = true
  · obtain ⟨offers, near⟩ := stands
    let last : Exchange := ⟨.send rest, .error error⟩
    have counted : last.isRetry = true := again
    have offers' : Offers data (exchanges ++ [last]) rest :=
      offers.snoc_idle rfl (if_pos again)
    have near' : (exchanges ++ [last]).length + 1 + rest.length ≤
        data.length + 2 * retries (exchanges ++ [last]) := by
      rw [List.length_append, List.length_singleton, retries_snoc, if_pos counted]
      omega
    simp only [answered]
    split
    · exact ⟨offers', Nat.le_trans (Nat.add_le_add_right (Nat.le_succ _) _) near'⟩
    · rename_i uninterrupted
      have waits : error.isWouldBlock = true := by
        simpa [StreamError.invitesRetry, uninterrupted] using again
      rw [if_pos waits]
      exact ⟨offers', near'⟩
  · obtain ⟨uninterrupted, waitless⟩ : error.isInterrupted = false ∧
        error.isWouldBlock = false := by
      simpa [StreamError.invitesRetry] using again
    simp only [answered, uninterrupted, waitless, Bool.false_eq_true, if_false]
    exact stands_failed stands rfl (if_neg again)

theorem stands_paused (stands : Stands data exchanges (.resting rest)) :
    Stands data (exchanges ++ [⟨.pause, ()⟩]) (.offering rest) := by
  obtain ⟨offers, near⟩ := stands
  refine ⟨offers.snoc_idle rfl rfl, ?_⟩
  rw [List.length_append, List.length_singleton, retries_snoc]
  omega

theorem stands_dialogue (dialogue : Turn.Dialogue turn (start data) exchanges delivery) :
    Stands data exchanges delivery := by
  induction dialogue with
  | nil => exact stands_start data
  | @snoc exchanges delivery request resume before asks reply stands =>
      cases delivery with
      | offering rest =>
          cases asks
          cases reply with
          | ok count => exact stands_taken stands count
          | error error => exact stands_refused stands error
      | resting rest =>
          cases asks
          exact stands_paused stands
      | delivered => cases asks
      | failed error => cases asks

theorem Stands.length_le (stands : Stands data exchanges delivery) :
    exchanges.length ≤ data.length + 2 * retries exchanges := by
  cases delivery with
  | offering rest => exact Nat.le_trans (Nat.le_add_right _ _) stands.2
  | resting rest =>
      have near := stands.2
      omega
  | delivered => exact stands.2.2
  | failed error => exact stands.2.2

theorem Stands.isPrefix (stands : Stands data exchanges delivery) :
    accepted exchanges <+: data := by
  cases delivery with
  | offering rest => exact ⟨rest, stands.1.suffix⟩
  | resting rest => exact ⟨rest, stands.1.suffix⟩
  | delivered => exact stands.1 ▸ List.prefix_rfl
  | failed error =>
      obtain ⟨rest, -, suffix⟩ := stands.1
      exact ⟨rest, suffix⟩

private theorem accepted_ne {rest : List UInt8} (positive : 0 < rest.length)
    (suffix : accepted exchanges ++ rest = data) : accepted exchanges ≠ data := by
  rintro same
  have whole : (accepted exchanges ++ rest).length = data.length := congrArg List.length suffix
  rw [same, List.length_append] at whole
  omega

theorem Stands.succeeds_iff (stands : Stands data exchanges delivery) :
    delivery.turn.result? = some (.ok ()) ↔ accepted exchanges = data := by
  cases delivery with
  | offering rest =>
      exact iff_of_false (by rintro ⟨⟩) (accepted_ne stands.1.positive stands.1.suffix)
  | resting rest =>
      exact iff_of_false (by rintro ⟨⟩) (accepted_ne stands.1.positive stands.1.suffix)
  | delivered => exact iff_of_true rfl stands.1
  | failed error =>
      obtain ⟨rest, positive, suffix⟩ := stands.1
      exact iff_of_false (by rintro ⟨⟩) (accepted_ne positive suffix)

theorem Stands.fails_iff (stands : Stands data exchanges delivery) (error : CommandError) :
    delivery.turn.result? = some (.error error) ↔
      exchanges.findSome? Exchange.verdict? = some error := by
  cases delivery with
  | offering rest => simp [turn, Turn.result?, stands.1.undecided]
  | resting rest => simp [turn, Turn.result?, stands.1.undecided]
  | delivered => simp [turn, Turn.result?, stands.2.1]
  | failed own => simp [turn, Turn.result?, stands.2.1]

/-- An answer to an offer accepts something, invites another try or ends the delivery. -/
theorem advances_of_positive (positive : 0 < rest.length)
    (reply : ProgramReply (.send rest)) :
    Exchange.accepted ⟨.send rest, reply⟩ ≠ [] ∨ Exchange.isRetry ⟨.send rest, reply⟩ = true ∨
      (Exchange.verdict? ⟨.send rest, reply⟩).isSome = true := by
  cases reply with
  | ok count =>
      by_cases nothing : count.val = 0
      · exact .inr (.inr (by simp [Exchange.verdict?, nothing]))
      · refine .inl ?_
        simp only [Exchange.accepted, ne_eq, List.take_eq_nil_iff]
        rintro (none | empty)
        · exact nothing none
        · rw [empty] at positive
          cases positive
  | error error =>
      by_cases again : error.invitesRetry = true
      · exact .inr (.inl again)
      · exact .inr (.inr (by simp [Exchange.verdict?, again]))

theorem exists_retry_of_resting
    (dialogue : Turn.Dialogue turn (start data) exchanges (.resting rest)) :
    ∃ earlier last, exchanges = earlier ++ [last] ∧ last.isRetry = true := by
  generalize isResting : Delivery.resting rest = delivery at dialogue
  cases dialogue with
  | nil => cases data <;> cases isResting
  | @snoc earlier middle request resume before asks reply =>
      refine ⟨earlier, _, rfl, ?_⟩
      cases middle with
      | offering rest' =>
          cases asks
          cases reply with
          | ok count =>
              simp only [answered, start] at isResting
              split at isResting
              · cases isResting
              · split at isResting <;> cases isResting
          | error error =>
              simp only [answered] at isResting
              split at isResting
              · cases isResting
              · split at isResting
                · rename_i waits
                  simp [Exchange.isRetry, StreamError.invitesRetry, waits]
                · cases isResting
      | resting rest' => cases asks; cases isResting
      | delivered => cases asks
      | failed error => cases asks

/-- From where it stands, a delivery ends under all answers that invite only so many other
tries. -/
theorem ends_of_retries_le (dialogue : Turn.Dialogue turn (start data) exchanges delivery)
    (answers : Nat → (request : ProgramRequest) → ProgramReply request) (bound : Nat)
    (few : ∀ count, retries (Turn.converse turn answers delivery count).1 ≤ bound) :
    ∃ count result, (Turn.converse turn answers delivery count).2.turn.result? = some result := by
  -- Longer than this no dialogue can be.
  let count := data.length + 2 * (retries exchanges + bound) + 1
  refine ⟨count, Option.ne_none_iff_exists'.mp fun unfinished => ?_⟩
  have long := Turn.length_converse answers delivery count unfinished
  have near :=
    (stands_dialogue (dialogue.append (Turn.dialogue_converse answers delivery count))).length_le
  rw [List.length_append, long, retries_append] at near
  have few := few count
  omega

end Delivery

namespace Production

variable {data : List UInt8} {exchanges : List Exchange} {delivery delivery' : Delivery}

theorem turn_deliver {production : Production} {chunk : Nat} {request : ProgramRequest}
    {resume : ProgramReply request → Delivery} (asks : delivery.turn = .ask request resume) :
    (production.deliver chunk data delivery).turn =
      .ask request fun reply => production.deliver chunk data (resume reply) := by
  have forgets : ∀ phase delivery', (production.goTo phase).deliver chunk data delivery' =
      production.deliver chunk data delivery' := by
    intro phase delivery'
    cases delivery' <;> rfl
  cases delivery with
  | offering rest =>
      cases asks
      exact congrArg _ (funext fun reply => forgets _ _)
  | resting rest =>
      cases asks
      rfl
  | delivered => cases asks
  | failed error => cases asks

/-- A producer delivers a chunk by going through the dialogue of its delivery. -/
theorem dialogue_deliver (production : Production) (chunk : Nat)
    (dialogue : Turn.Dialogue Delivery.turn delivery exchanges delivery') :
    Turn.Dialogue turn (production.deliver chunk data delivery) exchanges
      (production.deliver chunk data delivery') := by
  induction dialogue with
  | nil => exact .nil
  | snoc _ asks reply hypothesis => exact hypothesis.snoc (turn_deliver asks) reply

end Production

namespace Delivery

variable {data : List UInt8} {exchanges : List Exchange} {delivery : Delivery}

/-- What holds of a delivery of the data that has gone through the exchanges. -/
structure Exact (data : List UInt8) (exchanges : List Exchange) (delivery : Delivery) :
    Prop where
  /-- Each offer is just what was not accepted before it. -/
  offers : ∀ before rest reply after, exchanges = before ++ ⟨.send rest, reply⟩ :: after →
    0 < rest.length ∧ accepted before ++ rest = data
  isPrefix : accepted exchanges <+: data
  succeeds : delivery.turn.result? = some (.ok ()) ↔ accepted exchanges = data
  /-- It fails with the error of the first answer that ends it. -/
  fails : ∀ error, delivery.turn.result? = some (.error error) ↔
    exchanges.findSome? Exchange.verdict? = some error
  /-- No data needs no offer. -/
  atOnce : data = [] → exchanges = []
  /-- A step that accepts nothing comes from an answer that invites another try, or it is the
  last one. -/
  steps : ∀ before exchange after, exchanges = before ++ exchange :: after →
    exchange.accepted ≠ [] ∨ exchange.isRetry = true ∨ exchange.verdict?.isSome = true ∨
      exchange.request = .pause ∧
        ∃ earlier last, before = earlier ++ [last] ∧ last.isRetry = true
  length_le : exchanges.length ≤ data.length + 2 * retries exchanges
  /-- It ends under all answers that invite finitely many other tries. -/
  ends : ∀ answers bound,
    (∀ count, retries (Turn.converse turn answers delivery count).1 ≤ bound) →
      ∃ count result, (Turn.converse turn answers delivery count).2.turn.result? = some result
  /-- A producer that has read the data as a chunk goes through the same exchanges. -/
  produces : ∀ (production : Production) (chunk : Nat),
    Turn.Dialogue Production.turn (production.deliver chunk data (start data)) exchanges
      (production.deliver chunk data delivery)

theorem exact_of_dialogue (dialogue : Turn.Dialogue turn (start data) exchanges delivery) :
    Exact data exchanges delivery := by
  have stands := stands_dialogue dialogue
  have offers : ∀ before rest reply after, exchanges = before ++ ⟨.send rest, reply⟩ :: after →
      0 < rest.length ∧ accepted before ++ rest = data := by
    intro before rest reply after split
    obtain ⟨middle, earlier, resume, asks⟩ := dialogue.asks_of_split split
    have stands := stands_dialogue earlier
    cases middle with
    | offering rest' =>
        cases asks
        exact ⟨stands.1.positive, stands.1.suffix⟩
    | resting rest' => cases asks
    | delivered => cases asks
    | failed error => cases asks
  refine ⟨offers, stands.isPrefix, stands.succeeds_iff, stands.fails_iff, ?_, ?_,
    stands.length_le, ends_of_retries_le dialogue,
    fun production chunk => Production.dialogue_deliver production chunk dialogue⟩
  · rintro rfl
    cases exchanges with
    | nil => rfl
    | cons exchange exchanges =>
        obtain ⟨middle, earlier, resume, asks⟩ := dialogue.asks_of_split (List.nil_append _).symm
        have stands := stands_dialogue earlier
        cases middle with
        | offering rest => exact (accepted_ne stands.1.positive stands.1.suffix rfl).elim
        | resting rest => exact (accepted_ne stands.1.positive stands.1.suffix rfl).elim
        | delivered => cases asks
        | failed error => cases asks
  · rintro before ⟨request, reply⟩ after split
    obtain ⟨middle, earlier, resume, asks⟩ := dialogue.asks_of_split split
    cases middle with
    | offering rest =>
        cases asks
        have positive := (offers before rest reply after split).1
        rcases advances_of_positive positive reply with some | again | verdict
        · exact .inl some
        · exact .inr (.inl again)
        · exact .inr (.inr (.inl verdict))
    | resting rest =>
        cases asks
        exact .inr (.inr (.inr ⟨rfl, exists_retry_of_resting earlier⟩))
    | delivered => cases asks
    | failed error => cases asks

/-- Three bytes are taken in two parts, with an interruption in between. -/
theorem exact_of_dialogue_of_three_bytes :
    Turn.Dialogue turn (start [1, 2, 3])
        [⟨.send [1, 2, 3], .ok 2⟩,
          ⟨.send [3], .error (.pipe (.write (.bare .interrupted)))⟩, ⟨.send [3], .ok 1⟩]
        .delivered ∧
      Exact [1, 2, 3]
        [⟨.send [1, 2, 3], .ok 2⟩,
          ⟨.send [3], .error (.pipe (.write (.bare .interrupted)))⟩, ⟨.send [3], .ok 1⟩]
        .delivered := by
  have dialogue : Turn.Dialogue turn (start [1, 2, 3])
      [⟨.send [1, 2, 3], .ok 2⟩,
        ⟨.send [3], .error (.pipe (.write (.bare .interrupted)))⟩, ⟨.send [3], .ok 1⟩]
      .delivered := by
    have offers : ∀ rest, turn (.offering rest) = .ask (.send rest) (answered rest) := fun _ => rfl
    have first := Turn.Dialogue.nil.snoc (offers [1, 2, 3]) (Except.ok 2)
    have second := first.snoc (offers [3]) (Except.error (.pipe (.write (.bare .interrupted))))
    exact second.snoc (offers [3]) (Except.ok 1)
  exact ⟨dialogue, exact_of_dialogue dialogue⟩

end Delivery

end BoundedStream
