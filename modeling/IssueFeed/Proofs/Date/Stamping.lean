import IssueFeed.Proofs.Config.Checked
import IssueFeed.Proofs.Feed.Merging

/-! Date formats that are accepted and date formats that can be written.
A format is accepted when each of its percent signs stands for something, and then it can be written
at every instant, with one exception: an offset can be asked for in a form that is only for reading.
A stamp is never written in part; where the format cannot be written it is the plain one. -/
namespace IssueFeed.Date

variable {rest back front pattern : List Char} {found : List Piece} {width : Nat}

/-- The characters that change or begin what follows a percent sign and stand for nothing alone. -/
def flags : List Char := ['-', '_', '0', '#', ':', '.', '3', '6', '9']

theorem flag_alone {flag : Char} (member : flag ∈ flags) :
    numberOfLetter flag = none ∧ piecesOfLetter flag = none := by
  simp only [flags, List.mem_cons, List.not_mem_nil, or_false] at member
  rcases member with rfl | rfl | rfl | rfl | rfl | rfl | rfl | rfl | rfl <;> exact ⟨rfl, rfl⟩

theorem specifier_letter {letter : Char} (plain : letter ∉ flags) (rest : List Char) :
    specifier (letter :: rest) =
      ((numberOfLetter letter).map fun known => ([.number known.1 known.2], 1)).or
        ((piecesOfLetter letter).map (·, 1)) := by
  simp only [flags, List.mem_cons, List.not_mem_nil, or_false, not_or] at plain
  cases number : numberOfLetter letter <;> simp [specifier, plain, number]

example : specifier "Y-".toList = some ([.number .year .zero], 1) := by cbv

/-- A letter that stands for something is no flag, so what follows it does not count. -/
theorem specifier_known_letter {letter : Char} {tail : List Char}
    (alone : numberOfLetter letter ≠ none ∨ piecesOfLetter letter ≠ none)
    (read : specifier (letter :: tail) = some (found, width)) :
    width = 1 ∧ ∀ back, specifier (letter :: back) = some (found, width) := by
  have plain : letter ∉ flags := by
    intro flag
    simp [flag_alone flag] at alone
  rw [specifier_letter plain] at read
  refine ⟨?_, fun back => by rw [specifier_letter plain, read]⟩
  rcases Option.or_eq_some_iff.mp read with number | ⟨-, others⟩
  · obtain ⟨known, -, same⟩ := Option.map_eq_some_iff.mp number
    exact (congrArg Prod.snd same).symm
  · obtain ⟨known, -, same⟩ := Option.map_eq_some_iff.mp others
    exact (congrArg Prod.snd same).symm

/-- What stands for pieces does so whatever follows it. -/
theorem specifier_reads (read : specifier rest = some (found, width)) :
    width ≤ rest.length ∧
      ∀ back, specifier (rest.take width ++ back) = some (found, width) := by
  have whole := read
  revert read
  fun_cases specifier rest with
  | case1 | case2 | case3 =>
    intro read
    obtain ⟨_, known, same⟩ := Option.map_eq_some_iff.mp read
    cases same
    exact ⟨by simp, fun back => by simp [specifier, known]⟩
  | case15 letter tail =>
    rename_i number
    intro _
    obtain ⟨rfl, same⟩ := specifier_known_letter (.inl (by simp [number])) whole
    exact ⟨Nat.succ_le_succ (Nat.zero_le _), same⟩
  | case16 letter tail =>
    intro read
    obtain ⟨_, known, -⟩ := Option.map_eq_some_iff.mp read
    obtain ⟨rfl, same⟩ := specifier_known_letter (.inr (by simp [known])) whole
    exact ⟨Nat.succ_le_succ (Nat.zero_le _), same⟩
  | case17 => exact nofun
  | _ =>
    intro read
    cases read
    exact ⟨by simp, fun back => by simp [specifier]⟩

theorem pieces_append (read : pieces front = some found) (back : List Char) :
    pieces (front ++ back) = (pieces back).map (found ++ ·) := by
  fun_induction pieces front generalizing found with
  | case1 =>
    cases read
    simp
  | case2 rest first width known ih =>
    obtain ⟨later, readLater, rfl⟩ := Option.map_eq_some_iff.mp read
    obtain ⟨within, same⟩ := specifier_reads known
    have again : specifier (rest ++ back) = some (first, width) := by
      rw [← same (rest.drop width ++ back), ← List.append_assoc, List.take_append_drop]
    rw [List.cons_append, pieces, if_pos rfl, again]
    simp only [List.drop_append_of_le_length within, ih readLater, Option.map_map]
    congr 1
    funext others
    simp
  | case3 => cases read
  | case4 c rest literal ih =>
    obtain ⟨later, readLater, rfl⟩ := Option.map_eq_some_iff.mp read
    rw [List.cons_append, pieces, if_neg literal, ih readLater, Option.map_map]
    rfl

/-! ## What can be written -/

theorem offsetText_isSome_iff (offset : Int) (form : OffsetForm) :
    (offsetText offset form).isSome = true ↔ form ≠ .anyForm := by
  cases form <;> simp [offsetText]

theorem text?_isSome_iff (t : Instant) (piece : Piece) :
    (piece.text? t).isSome = true ↔ piece ≠ .offset .anyForm := by
  cases piece with
  | offset form => simp [Piece.text?, offsetText_isSome_iff]
  | _ => simp [Piece.text?]

theorem piecesText?_cons_isSome (t : Instant) (piece : Piece) (rest : List Piece) :
    (piecesText? t (piece :: rest)).isSome = true ↔
      (piece.text? t).isSome = true ∧ (piecesText? t rest).isSome = true := by
  rw [piecesText?]
  cases piece.text? t <;> cases piecesText? t rest <;> simp

/-- Pieces can be written at every instant or at none. -/
theorem piecesText?_isSome_iff (t : Instant) (pieces : List Piece) :
    (piecesText? t pieces).isSome = true ↔ .offset .anyForm ∉ pieces := by
  induction pieces with
  | nil => simp [piecesText?]
  | cons piece rest ih =>
    rw [piecesText?_cons_isSome, text?_isSome_iff, ih, List.mem_cons, not_or, ne_comm]

/-! ## Offsets that can only be read -/

/-- Somewhere in the pattern an offset is asked for in the form that is only for reading. -/
def AsksAnyOffset (pattern : List Char) : Prop :=
  ∃ front back, pattern = front ++ '%' :: '#' :: 'z' :: back ∧ (pieces front).isSome = true

theorem filledNumber_written {padding : Padding} {letter : Char}
    (known : filledNumber padding letter = some found) : .offset .anyForm ∉ found := by
  obtain ⟨number, -, rfl⟩ := Option.map_eq_some_iff.mp known
  simp

theorem piecesOfLetter_written {letter : Char} (known : piecesOfLetter letter = some found) :
    .offset .anyForm ∉ found := by
  revert known
  fun_cases piecesOfLetter letter <;> intro known <;> cases known <;> decide

theorem specifier_anyForm (read : specifier rest = some (found, width))
    (member : .offset .anyForm ∈ found) : ∃ back, rest = '#' :: 'z' :: back := by
  revert read
  fun_cases specifier rest with
  | case1 | case2 | case3 =>
    intro read
    obtain ⟨_, known, same⟩ := Option.map_eq_some_iff.mp read
    cases same
    exact absurd member (filledNumber_written known)
  | case4 back => exact fun _ => ⟨back, rfl⟩
  | case16 letter tail =>
    intro read
    obtain ⟨_, known, same⟩ := Option.map_eq_some_iff.mp read
    cases same
    exact absurd member (piecesOfLetter_written known)
  | case17 => exact nofun
  | _ =>
    intro read
    cases read
    simp at member

theorem mem_pieces_iff (read : pieces pattern = some found) :
    .offset .anyForm ∈ found ↔ AsksAnyOffset pattern := by
  constructor
  · intro member
    fun_induction pieces pattern generalizing found with
    | case1 =>
      cases read
      cases member
    | case2 rest first width known ih =>
      obtain ⟨later, readLater, rfl⟩ := Option.map_eq_some_iff.mp read
      rcases List.mem_append.mp member with here | behind
      · obtain ⟨back, rfl⟩ := specifier_anyForm known here
        exact ⟨[], back, rfl, by simp [pieces]⟩
      · obtain ⟨front, back, split, complete⟩ := ih readLater behind
        obtain ⟨within, same⟩ := specifier_reads known
        refine ⟨'%' :: (rest.take width ++ front), back, ?_, ?_⟩
        · rw [List.cons_append, List.append_assoc, ← split, List.take_append_drop]
        · rw [pieces, if_pos rfl, same]
          simpa [List.drop_append_of_le_length, within] using complete
    | case3 => cases read
    | case4 c rest literal ih =>
      obtain ⟨later, readLater, rfl⟩ := Option.map_eq_some_iff.mp read
      have behind : .offset .anyForm ∈ later := by simpa using member
      obtain ⟨front, back, rfl, complete⟩ := ih readLater behind
      refine ⟨c :: front, back, rfl, ?_⟩
      rw [pieces, if_neg literal, Option.isSome_map]
      exact complete
  · rintro ⟨front, back, rfl, complete⟩
    obtain ⟨before, readFront⟩ := Option.isSome_iff_exists.mp complete
    have ending : pieces ('%' :: '#' :: 'z' :: back) =
        (pieces back).map ([.offset .anyForm] ++ ·) := by
      rw [pieces, if_pos rfl]
      rfl
    rw [pieces_append readFront, ending, Option.map_map] at read
    obtain ⟨after, -, rfl⟩ := Option.map_eq_some_iff.mp read
    simp

/-- A stamp can be written after a pattern exactly if the pattern is one and asks for no offset in
the form that is only for reading; the instant does not matter. -/
theorem stamp?_isSome_iff (format : String) (t : Instant) :
    (stamp? format t).isSome = true ↔
      isPattern format = true ∧ ¬ AsksAnyOffset format.toList := by
  rw [stamp?, Option.isSome_map, isPattern]
  cases read : pieces format.toList with
  | none => simp
  | some found =>
    rw [Option.bind_some, piecesText?_isSome_iff, mem_pieces_iff read]
    simp

end IssueFeed.Date

namespace IssueFeed

/-! ## The check and the stamp -/

/-- The configuration with another date format, all else being the same. -/
def Config.withDateFormat (config : Config) (format : String) : Config :=
  { config with feed := { config.feed with dateFormat := format } }

theorem FeedConfig.fault?_dateFormat (feed : FeedConfig)
    (sound : { feed with dateFormat := Date.plainFormat }.fault? = none) :
    feed.fault? =
      if Date.isPattern feed.dateFormat then none else some (.badDateFormat feed.dateFormat) := by
  simp only [FeedConfig.fault?] at sound ⊢
  split_ifs at sound with noPath noLanguage
  rw [if_neg noPath, if_neg noLanguage]
  cases Date.isPattern feed.dateFormat <;> rfl

/-- Where nothing else is wrong, the date format decides. -/
theorem Config.validate_dateFormat (config : Config)
    (otherwise : (config.withDateFormat Date.plainFormat).validate = .ok ()) :
    config.validate =
      if Date.isPattern config.feed.dateFormat then .ok ()
      else .error (.validation (ConfigFault.badDateFormat config.feed.dateFormat).message) := by
  obtain ⟨crawler, source, feed⟩ := fault?_eq_none_iff.mp (validate_eq_ok_iff.mp otherwise)
  have faults : config.fault? = config.feed.fault? := by
    change config.crawler.fault? = none at crawler
    change config.source.fault? = none at source
    rw [fault?, crawler, source, Option.none_or, Option.none_or]
  rw [validate, faults, config.feed.fault?_dateFormat feed]
  split_ifs <;> rfl

theorem plainFormat_pieces :
    Date.pieces Date.plainFormat.toList =
      some [.number .year .zero, .literal '-', .number .month .zero, .literal '-',
        .number .day .zero, .literal ' ', .number .hour .zero, .literal ':',
        .number .minute .zero] := by cbv

theorem plainFormat_written (now : Instant) :
    (Date.stamp? Date.plainFormat now).isSome = true := by
  rw [Date.stamp?, Option.isSome_map, plainFormat_pieces, Option.bind_some,
    Date.piecesText?_isSome_iff]
  decide

/-- What is reported where a format gives way to the plain one. -/
def formatWarning (format : String) : Report :=
  ⟨.warn, s!"Invalid date format {Text.quoted format}, using {Date.plainFormat}"⟩

theorem stamp_unwritten {feed : FeedConfig} {now : Instant}
    (unwritten : Date.stamp? feed.dateFormat now = none) :
    ∃ text, Date.stamp? Date.plainFormat now = some text ∧
      Merge.stamp feed now = (text, [formatWarning feed.dateFormat]) := by
  obtain ⟨text, plain⟩ := Option.isSome_iff_exists.mp (plainFormat_written now)
  refine ⟨text, plain, ?_⟩
  rw [Merge.stamp, unwritten, plain]
  rfl

/-- Where nothing but the date format can be wrong with a configuration, at every instant: the
format can be written exactly if the configuration is accepted, formats aside that ask for an offset
in the form for reading. What a merge stamps its new items with is written after the format, without
a report, or else it is the plain stamp as a whole, with a warning. -/
theorem accepted_formats_written (config : Config) (now : Instant)
    (otherwise : (config.withDateFormat Date.plainFormat).validate = .ok ()) :
    let format := config.feed.dateFormat
    ((Date.stamp? format now).isSome = true ↔
        config.validate = .ok () ∧ ¬ Date.AsksAnyOffset format.toList) ∧
      (∀ text, Date.stamp? format now = some text → Merge.stamp config.feed now = (text, [])) ∧
      (Date.stamp? format now = none →
        ∃ text, Date.stamp? Date.plainFormat now = some text ∧
          Merge.stamp config.feed now = (text, [formatWarning format])) ∧
      ∀ channel candidates, ∃ new,
        (merge config now channel candidates).channel.items = channel.items ++ new ∧
          ∀ item ∈ new, item.pubDate = (Merge.stamp config.feed now).1 := by
  intro format
  have accepted : config.validate = .ok () ↔ Date.isPattern format = true := by
    rw [config.validate_dateFormat otherwise]
    split_ifs with pattern <;> simp [format, pattern]
  refine ⟨?_, ?_, stamp_unwritten, ?_⟩
  · rw [Date.stamp?_isSome_iff, accepted]
  · intro text written
    rw [Merge.stamp, written]
  · intro channel candidates
    refine ⟨_, merge_items config now channel candidates, fun item member => ?_⟩
    obtain ⟨candidate, -, rfl⟩ := List.mem_map.mp member
    rfl

/-- A configuration with addresses without names and a date format. -/
def datedConfig (format : String) : Config where
  source := { pageUrl := "http://[::]", origin := "http://[::]" }
  feed := { dateFormat := format }

theorem datedConfig_validate {format : String} (pattern : Date.isPattern format = true) :
    (datedConfig format).validate = .ok () := by
  have crawler : ({} : CrawlerConfig).fault? = none := by decide
  have source : (datedConfig format).source.fault? = none := by
    change ({ pageUrl := "http://[::]", origin := "http://[::]" } : SourceConfig).fault? = none
    decide
  have language : isBlankText ({} : FeedConfig).language = false := by decide
  have feed : (datedConfig format).feed.fault? = none := by
    simp [datedConfig, FeedConfig.fault?, language, pattern]
  exact Config.validate_eq_ok_iff.mpr (Config.fault?_eq_none_iff.mpr ⟨crawler, source, feed⟩)

/-- In a leap second, by a clock that is behind universal time. -/
theorem leap_second_written :
    let config := datedConfig "%-d.%m.%Y %T%.3f %::z"
    let now : Instant := ⟨2016, 12, 31, 15, 59, 59, 1250000000, -28800⟩
    (config.withDateFormat Date.plainFormat).validate = .ok () ∧
      config.validate = .ok () ∧
      Merge.stamp config.feed now = ("31.12.2016 15:59:60.250 -08:00:00", []) := by
  intro config now
  have plain := ((Date.stamp?_isSome_iff _ now).mp (plainFormat_written now)).1
  have otherwise : (config.withDateFormat Date.plainFormat).validate = .ok () :=
    datedConfig_validate plain
  obtain ⟨checked, stamped, -, -⟩ := accepted_formats_written config now otherwise
  have read : Date.pieces config.feed.dateFormat.toList =
      some [.number .day .none, .literal '.', .number .month .zero, .literal '.',
        .number .year .zero, .literal ' ', .number .hour .zero, .literal ':',
        .number .minute .zero, .literal ':', .number .second .zero, .fixedFraction true 3,
        .literal ' ', .offset .seconds] := by cbv
  have written : Date.stamp? config.feed.dateFormat now =
      some "31.12.2016 15:59:60.250 -08:00:00" := by
    rw [Date.stamp?, read]
    decide
  have accepted := (checked.mp (by rw [written]; rfl)).1
  exact ⟨otherwise, accepted, stamped _ written⟩

/-- An offset in the form for reading is accepted in a format, but cannot be written. -/
theorem reading_offset_accepted_unwritten :
    let config := datedConfig "%#z"
    let now : Instant := ⟨2026, 10, 14, 9, 30, 0, 0, 0⟩
    config.validate = .ok () ∧ Date.stamp? config.feed.dateFormat now = none ∧
      Merge.stamp config.feed now = ("2026-10-14 09:30", [formatWarning "%#z"]) := by
  intro config now
  have pattern : Date.isPattern "%#z" = true := by cbv
  have unwritten : Date.stamp? config.feed.dateFormat now = none := by cbv
  have plain : Date.stamp? Date.plainFormat now = some "2026-10-14 09:30" := by
    rw [Date.stamp?, plainFormat_pieces]
    decide
  obtain ⟨text, written, stamped⟩ := stamp_unwritten unwritten
  cases plain.symm.trans written
  exact ⟨datedConfig_validate pattern, unwritten, stamped⟩

end IssueFeed
