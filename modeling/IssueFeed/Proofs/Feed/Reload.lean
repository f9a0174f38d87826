import IssueFeed.Feed.Load
import IssueFeed.Proofs.Feed.Merging
import IssueFeed.Proofs.Rss.RoundTrip

/-! Merging with and without storing in between.
A feed that is stored and loaded between its merges and one that is only kept in memory stay alike:
they agree once their texts are settled, and a merge cannot tell them apart. -/
namespace IssueFeed

theorem begun_bytes_not_blank (rest : ByteArray) :
    isBlankDocument (['<'].utf8Encode ++ rest) = false := by
  have first : (['<'].utf8Encode.data.all fun b => Text.isAsciiBlank (Char.ofNat b.toNat)) =
      false := by decide +kernel
  rw [isBlankDocument, ByteArray.data_append, Array.all_append, first, Bool.false_and]

theorem begun_bytes {text : String} {rest : List Char} (begins : text.toList = '<' :: rest) :
    text.toUTF8 = ['<'].utf8Encode ++ rest.utf8Encode := by
  rw [← List.utf8Encode_cons, ← begins, ← String.toByteArray_ofList, String.ofList_toList]
  rfl

theorem begun_not_blank {text : String} {rest : List Char} (begins : text.toList = '<' :: rest) :
    isBlankDocument text.toUTF8 = false := by
  rw [begun_bytes begins]
  exact begun_bytes_not_blank _

theorem serialize_not_blank (channel : Channel) : isBlankDocument channel.serialize = false := by
  obtain ⟨rest, begins⟩ := render_begins channel
  exact begun_not_blank begins

/-- The channel after it has been stored and loaded again. -/
def Channel.reload (config : Config) (now : Instant) (channel : Channel) : Channel :=
  (Channel.load config now (some channel.serialize)).1

theorem reload_eq (config : Config) (now : Instant) (channel : Channel) :
    channel.reload config now = channel.settled := by
  simp only [Channel.reload, Channel.load, serialize_not_blank, Bool.false_eq_true, if_false,
    parse_serialize]

/-- What can happen to a feed between two looks at it. -/
inductive Step where
  | merge (config : Config) (now : Instant) (candidates : List Candidate)
  /-- The feed is stored and loaded again. -/
  | reload (config : Config) (now : Instant)

def Step.isMerge : Step → Bool
  | .merge .. => true
  | .reload .. => false

/-- A feed on its way, with how many items each merge added. -/
structure Trail where
  channel : Channel
  added : List Nat := []

namespace Trail

def next (trail : Trail) : Step → Trail
  | .merge config now candidates =>
    let outcome := IssueFeed.merge config now trail.channel candidates
    ⟨outcome.channel, trail.added ++ [outcome.added]⟩
  | .reload config now => { trail with channel := trail.channel.reload config now }

def follow (trail : Trail) (steps : List Step) : Trail :=
  steps.foldl next trail

theorem follow_cons (trail : Trail) (step : Step) (steps : List Step) :
    trail.follow (step :: steps) = (trail.next step).follow steps := rfl

/-- The same has been added, and the channels are the same once they are stored. -/
structure Alike (a b : Trail) : Prop where
  channel : a.channel.settled = b.channel.settled
  added : a.added = b.added

variable {a b : Trail}

theorem next_reload (trail : Trail) (config : Config) (now : Instant) :
    trail.next (.reload config now) = ⟨trail.channel.settled, trail.added⟩ := by
  rw [next, reload_eq]

theorem Alike.reload_left (alike : Alike a b) (config : Config) (now : Instant) :
    Alike (a.next (.reload config now)) b := by
  rw [next_reload]
  exact ⟨a.channel.settled_settled.trans alike.channel, alike.added⟩

theorem Alike.merge (alike : Alike a b) (config : Config) (now : Instant)
    (candidates : List Candidate) :
    Alike (a.next (.merge config now candidates)) (b.next (.merge config now candidates)) := by
  have left := merge_settled config now a.channel candidates
  have right := merge_settled config now b.channel candidates
  rw [alike.channel] at left
  constructor
  · exact left.1.symm.trans right.1
  · simp only [next, alike.added, ← left.2, ← right.2]

theorem Alike.follow (alike : Alike a b) (steps : List Step) :
    Alike (a.follow steps) (b.follow (steps.filter Step.isMerge)) := by
  -- The induction is on the steps; a reload moves only the left of the two.
  induction steps generalizing a b with
  | nil => exact alike
  | cons step steps ih =>
    rw [follow_cons]
    cases step with
    | merge config now candidates =>
      rw [List.filter_cons_of_pos rfl, follow_cons]
      exact ih (alike.merge config now candidates)
    | reload config now =>
      rw [List.filter_cons_of_neg Bool.false_ne_true]
      exact ih (alike.reload_left config now)

end Trail

/-- Storing and loading the feed between merges, wherever and however often, changes neither what
each merge adds nor the keys of the items, and what remains different vanishes with the next
storing. -/
theorem reloads_change_nothing (channel : Channel) (steps : List Step) :
    let stored := Trail.follow ⟨channel, []⟩ steps
    let kept := Trail.follow ⟨channel, []⟩ (steps.filter Step.isMerge)
    stored.added = kept.added ∧
      stored.channel.linkKeys = kept.channel.linkKeys ∧
      ∃ again, Channel.parse stored.channel.serialize = .ok again ∧
        Channel.parse kept.channel.serialize = .ok again := by
  have start : Trail.Alike ⟨channel, []⟩ ⟨channel, []⟩ := ⟨rfl, rfl⟩
  have alike := start.follow steps
  refine ⟨alike.added, ?_, _, parse_serialize _, ?_⟩
  · rw [← Channel.linkKeys_settled, alike.channel, Channel.linkKeys_settled]
  · rw [parse_serialize, alike.channel]

end IssueFeed
