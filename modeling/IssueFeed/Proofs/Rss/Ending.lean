import IssueFeed.Proofs.Xml.Beginning
import IssueFeed.Rss.Read

/-! Where reading ends.
What is read of an element is read to the element's end, just as if the element had been passed
over. So nothing is read of a document unless its root element is closed. -/
namespace IssueFeed.Rss

open Xml (Event Tag Scope Frame Stretch Token closes eventsOfParts parts tokens)

variable {depth : Nat} {input rest inside after : List Event} {names : List String}
  {tag : Tag} {scope : Scope} {channel : Channel}

/-! ## Elements that are passed over -/

/-- What passes over an element within others goes on behind it. -/
theorem skipElement_within (skips : skipElement depth input = .ok rest) (outer : Nat) :
    skipElement (depth + 1 + outer) input = skipElement outer rest := by
  induction input generalizing depth with
  | nil => cases skips
  | cons event input ih =>
    cases event with
    | start tag scope =>
      rw [skipElement] at skips ⊢
      rw [← ih skips, Nat.add_right_comm]
    | finish scope =>
      cases depth with
      | zero =>
        cases skips
        rw [Nat.zero_add, Nat.add_comm, skipElement]
      | succ depth =>
        rw [Nat.add_right_comm, skipElement]
        exact ih skips
    | text stretches => exact ih skips
    | fault what => cases skips

theorem skipElement_start (skips : skipElement 0 input = .ok rest) (tag : Tag) (scope : Scope)
    (outer : Nat) : skipElement outer (.start tag scope :: input) = skipElement outer rest := by
  rw [skipElement, ← skipElement_within skips outer, Nat.zero_add, Nat.add_comm]

theorem readText_skips {value : String} (read : readText input = .ok (value, rest)) :
    skipElement 0 input = .ok rest := by
  unfold readText at read
  split at read <;> try contradiction
  · cases read
    rfl
  · split at read <;> try contradiction
    split at read <;> try contradiction
    cases read
    rfl

theorem readFields_skips {texts found : Texts}
    (read : readFields names texts input = .ok (found, rest)) :
    skipElement 0 input = .ok rest := by
  fun_induction readFields names texts input <;> try contradiction
  case case2 =>
    cases read
    rfl
  case case4 ih => exact ih read
  case case7 field ih => rw [skipElement_start (readText_skips field), ih read]
  case case9 other ih => rw [skipElement_start other, ih read]

theorem readRecord_skips {found : Texts} (read : readRecord names tag input = .ok (found, rest)) :
    skipElement 0 input = .ok rest := by
  unfold readRecord at read
  split_ifs at read
  exact readFields_skips read

/-- An element that is put aside can be passed over later, whatever follows it then. -/
theorem takeElement_skips (taken : takeElement depth input = .ok (inside, after)) :
    skipElement depth input = .ok after ∧ ∀ scope more,
      skipElement depth (inside.map (withScope scope) ++ more) = .ok more := by
  induction input generalizing depth inside with
  | nil => cases taken
  | cons event input ih =>
    cases event with
    | start tag scope =>
      simp only [takeElement] at taken
      split at taken <;> try contradiction
      rename_i found
      cases taken
      exact ih found
    | finish scope =>
      cases depth with
      | zero =>
        cases taken
        exact ⟨rfl, fun _ _ => rfl⟩
      | succ depth =>
        simp only [takeElement] at taken
        split at taken <;> try contradiction
        rename_i found
        cases taken
        exact ih found
    | text stretches =>
      simp only [takeElement] at taken
      split at taken <;> try contradiction
      split at taken <;> try contradiction
      rename_i found
      cases taken
      obtain ⟨passed, later⟩ := ih found
      exact ⟨passed, later⟩
    | fault what => cases taken

theorem readItems_skips {name : List Char} {run : ItemRun}
    (read : readItems name input = .ok run) :
    skipElement 0 input = .ok run.rest ∧ ∀ scope more,
      skipElement 0 (run.aside.map (withScope scope) ++ more) = skipElement 0 more := by
  fun_induction readItems name input generalizing run <;> try contradiction
  case case2 =>
    cases read
    exact ⟨rfl, fun _ _ => rfl⟩
  case case6 record _ found ih =>
    cases read
    obtain ⟨skips, aside⟩ := ih found
    exact ⟨by rw [skipElement_start (readRecord_skips record), skips], aside⟩
  case case9 other _ found ih =>
    cases read
    obtain ⟨skips, aside⟩ := ih found
    obtain ⟨passed, later⟩ := takeElement_skips other
    constructor
    · rw [skipElement_start passed, skips]
    · intro scope more
      simp only [List.map_cons, List.map_append, List.cons_append, List.append_assoc, withScope]
      rw [skipElement_start (later scope _), aside]

/-- Putting elements aside moves nothing across the end of the channel. -/
theorem readItems_remaining {name : List Char} {run : ItemRun}
    (read : readItems name input = .ok run) :
    skipElement 0 input = skipElement 0 run.remaining := by
  obtain ⟨skips, aside⟩ := readItems_skips read
  rw [skips, ItemRun.remaining, aside, skipElement]

theorem readChannelFrom_skips {channelTag : Tag} {draft : Draft}
    (read : readChannelFrom channelTag draft input = .ok (channel, rest)) :
    skipElement 0 input = .ok rest := by
  fun_induction readChannelFrom channelTag draft input <;> try contradiction
  case case2 =>
    cases read
    rfl
  case case4 ih => exact ih read
  case case7 field ih => rw [skipElement_start (readText_skips field), ih read]
  case case10 absent ih => rw [skipElement_start absent, ih read]
  case case12 date ih => rw [skipElement_start (readText_skips date), ih read]
  case case15 absent ih => rw [skipElement_start absent, ih read]
  case case17 picture ih => rw [skipElement_start (readRecord_skips picture), ih read]
  case case20 items ih => rw [readItems_remaining items, ih read]
  case case22 other ih => rw [skipElement_start other, ih read]

theorem readChannel_skips (read : readChannel tag input = .ok (channel, rest)) :
    skipElement 0 input = .ok rest := by
  unfold readChannel at read
  split_ifs at read
  exact readChannelFrom_skips read

theorem readRoot_skips {found : Option Channel} (read : readRoot found input = .ok channel) :
    ∃ rest, skipElement 0 input = .ok rest := by
  fun_induction readRoot found input <;> try contradiction
  case case2 => exact ⟨_, rfl⟩
  case case5 ih => exact ih read
  case case8 inner ih =>
    obtain ⟨rest, skips⟩ := ih read
    exact ⟨rest, by rw [skipElement_start (readChannel_skips inner), skips]⟩
  case case10 other ih =>
    obtain ⟨rest, skips⟩ := ih read
    exact ⟨rest, by rw [skipElement_start other, skips]⟩

theorem read_skips (found : read input = .ok channel) :
    ∃ tag scope inside rest, input = .start tag scope :: inside ∧
      skipElement 0 inside = .ok rest := by
  unfold read at found
  split at found <;> try contradiction
  · split at found <;> contradiction
  · split_ifs at found
    obtain ⟨rest, skips⟩ := readRoot_skips found
    exact ⟨_, _, _, rest, rfl, skips⟩

/-! ## Elements that are closed -/

theorem skipElement_joinStretch (depth : Nat) (s : Stretch) (joins : Bool) (others : List Event) :
    skipElement depth (Xml.joinStretch s joins others) = skipElement depth others := by
  cases joins with
  | false => rfl
  | true => rcases others with _ | ⟨_ | _ | _ | _, others⟩ <;> rfl

theorem joinStretch_ne_start (s : Stretch) (joins : Bool) (others : List Event) :
    Xml.joinStretch s joins others ≠ .start tag scope :: inside := by
  cases joins with
  | false => nofun
  | true => rcases others with _ | ⟨_ | _ | _ | _, others⟩ <;> nofun

/-- An element whose end is met is closed. -/
theorem closes_of_skipElement {elements : List Frame} {trimming : Bool} {found : List Token}
    (skips : skipElement depth (eventsOfParts (parts elements trimming found)) = .ok rest) :
    closes (depth + 1) found = true := by
  induction found generalizing depth elements trimming with
  | nil => cases skips
  | cons token found ih =>
    cases token with
    | text content =>
      unfold parts at skips
      extract_lets kept at skips
      split_ifs at skips
      · exact ih skips
      · rw [eventsOfParts, skipElement_joinStretch] at skips
        exact ih skips
    | verbatim content =>
      rw [parts, eventsOfParts, skipElement_joinStretch] at skips
      exact ih skips
    | documentType => exact ih skips
    | ignored => exact ih skips
    | opening content selfClosing =>
      rw [parts] at skips
      split at skips
      · cases skips
      · cases selfClosing with
        | true =>
          rw [closes, if_pos rfl, Bool.or_eq_true]
          exact .inr (ih skips)
        | false =>
          rw [closes, if_neg Bool.false_ne_true]
          exact ih skips
    | closing name =>
      cases elements with
      | nil => cases skips
      | cons frame outer =>
        rw [parts] at skips
        split_ifs at skips
        · cases depth with
          | zero => rfl
          | succ depth => exact ih skips
        · cases skips
    | fault what => cases skips

theorem closes_of_started {elements : List Frame} {trimming : Bool} {found : List Token}
    (started : eventsOfParts (parts elements trimming found) = .start tag scope :: inside)
    (skips : skipElement 0 inside = .ok rest) : closes 0 found = true := by
  induction found generalizing elements trimming with
  | nil => cases started
  | cons token found ih =>
    cases token with
    | text content =>
      unfold parts at started
      extract_lets kept at started
      split_ifs at started
      · exact ih started
      · exact absurd started (joinStretch_ne_start _ _ _)
    | verbatim content => exact absurd started (joinStretch_ne_start _ _ _)
    | documentType => exact ih started
    | ignored => exact ih started
    | opening content selfClosing =>
      rw [parts] at started
      split at started
      · cases started
      · cases selfClosing with
        | true => rfl
        | false =>
          rw [closes, if_neg Bool.false_ne_true]
          obtain ⟨-, rfl⟩ := List.cons.inj started
          exact closes_of_skipElement skips
    | closing name =>
      cases elements with
      | nil => cases started
      | cons frame outer =>
        rw [parts] at started
        split_ifs at started <;> cases started
    | fault what => cases started

/-- Only a document whose root element is closed can be read. -/
theorem read_closes {text : List Char} (found : read (Xml.events text) = .ok channel) :
    closes 0 (tokens text) = true := by
  obtain ⟨tag, scope, inside, rest, started, skips⟩ := read_skips found
  exact closes_of_started started skips

end IssueFeed.Rss
