import IssueFeed.Proofs.Text.Trimming
import IssueFeed.Url.Basic

/-! No host holds a blank.
A blank or control character of a host stays what it is through all steps by which the host becomes
a domain name, and the name is then refused for it; in a port, or behind an address in brackets, it
is refused at once. -/
namespace IssueFeed.Url

variable {c : Char} {cs : List Char}

/-! ## Composition -/

theorem compositions_printed {first second : Nat} (low : first ≤ 32 ∨ second ≤ 32) :
    compositions.find? (fun pair => pair.first == first && pair.second == second) = none := by
  rw [Array.find?_eq_none]
  intro pair _ same
  simp only [Bool.and_eq_true, beq_iff_eq] at same
  have printed := pair.printed
  omega

theorem composePair?_blank (blank : isOuterBlank c = true) (other : Char) :
    composePair? c other = none ∧ composePair? other c = none := by
  have low : c.toNat ≤ 32 := of_decide_eq_true blank
  constructor
  · simp only [composePair?, compositions_printed (.inl low)]
    split_ifs <;> first | omega | rfl
  · simp only [composePair?, compositions_printed (.inr low)]
    split_ifs <;> first | omega | rfl

theorem mem_orderMarks (marks : List Char) (member : c ∈ marks ∨ c ∈ cs) :
    c ∈ orderMarks marks cs := by
  have sorted : ∀ marks : List Char, c ∈ marks → c ∈ orderMarks.sorted marks := by
    intro marks among
    simpa [orderMarks.sorted] using among
  induction cs generalizing marks with
  | nil =>
    rcases member with among | none
    · exact sorted marks among
    · cases none
  | cons d rest ih =>
    rw [orderMarks]
    split_ifs
    · rcases member with among | here
      · exact List.mem_append_left _ (sorted marks among)
      · rcases List.mem_cons.mp here with rfl | later
        · exact List.mem_append_right _ List.mem_cons_self
        · exact List.mem_append_right _ (List.mem_cons_of_mem _ (ih [] (.inr later)))
    · apply ih
      rcases member with among | here
      · exact .inl (List.mem_cons_of_mem _ among)
      · rcases List.mem_cons.mp here with rfl | later
        · exact .inl List.mem_cons_self
        · exact .inr later

theorem mem_composeFrom (blank : isOuterBlank c = true) (starter : Char) (marks : List Char)
    (member : c = starter ∨ c ∈ marks ∨ c ∈ cs) : c ∈ composeFrom starter marks cs := by
  induction cs generalizing starter marks with
  | nil =>
    rw [composeFrom]
    simpa using member
  | cons d rest ih =>
    simp only [composeFrom]
    split
    · rename_i whole composed
      replace composed : composePair? starter d = some whole := by
        split_ifs at composed
        exact composed
      apply ih
      rcases member with rfl | among | here
      · rw [(composePair?_blank blank d).1] at composed
        cases composed
      · exact .inr (.inl among)
      · rcases List.mem_cons.mp here with rfl | later
        · rw [(composePair?_blank blank starter).2] at composed
          cases composed
        · exact .inr (.inr later)
    · split_ifs with unmarked
      · rcases member with rfl | among | here
        · exact List.mem_cons_self
        · exact List.mem_cons_of_mem _ (List.mem_append_left _ (List.mem_reverse.mpr among))
        · refine List.mem_cons_of_mem _ (List.mem_append_right _ (ih d [] ?_))
          rcases List.mem_cons.mp here with rfl | later
          · exact .inl rfl
          · exact .inr (.inr later)
      · apply ih
        rcases member with rfl | among | here
        · exact .inl rfl
        · exact .inr (.inl (List.mem_cons_of_mem _ among))
        · rcases List.mem_cons.mp here with rfl | later
          · exact .inr (.inl List.mem_cons_self)
          · exact .inr (.inr later)

theorem mem_composeAll (blank : isOuterBlank c = true) (member : c ∈ cs) : c ∈ composeAll cs := by
  unfold composeAll
  dsimp only
  have split := List.takeWhile_append_dropWhile (p := (combiningClass · != 0)) (l := cs)
  have dropped : cs.drop (cs.takeWhile (combiningClass · != 0)).length =
      cs.dropWhile (combiningClass · != 0) := by
    have behind := congrArg (List.drop (cs.takeWhile (combiningClass · != 0)).length) split
    rw [List.drop_left] at behind
    exact behind.symm
  rw [dropped]
  rw [← split] at member
  rcases List.mem_append.mp member with ahead | behind
  · split
    · exact ahead
    · exact List.mem_append_left _ ahead
  · split
    · rename_i none
      rw [none] at behind
      cases behind
    · rename_i starter rest starts
      rw [starts] at behind
      refine List.mem_append_right _ (mem_composeFrom blank starter [] ?_)
      rcases List.mem_cons.mp behind with rfl | later
      · exact .inl rfl
      · exact .inr (.inr later)

theorem mem_normalize (blank : isOuterBlank c = true) (member : c ∈ cs) : c ∈ normalize cs := by
  have plain : c.toNat < 128 := Nat.lt_of_le_of_lt (of_decide_eq_true blank) (by decide)
  unfold normalize
  split_ifs
  · exact member
  · refine mem_composeAll blank (mem_orderMarks [] (.inr (List.mem_flatMap.mpr ⟨c, member, ?_⟩)))
    rw [if_pos plain]
    exact List.mem_singleton_self c

/-! ## Labels -/

theorem not_letter_blank (blank : isOuterBlank c = true) :
    Text.isLetter c = false ∧ Text.isDigit c = false ∧ Text.lower c = c := by
  have low : c.toNat ≤ 32 := of_decide_eq_true blank
  have below : ∀ d : Char, 32 < d.toNat → ¬ d ≤ c := by
    intro d printed atMost
    have := Char.le_def.mp atMost
    have : d.toNat ≤ c.toNat := this
    omega
  simp only [Text.isLetter, Text.isDigit, Text.lower, below 'a' (by decide), below 'A' (by decide),
    below '0' (by decide), decide_false, Bool.false_and, Bool.or_self, Bool.false_eq_true, if_false,
    and_self]

theorem mem_mapAll? {mapped : List Char} (blank : isOuterBlank c = true) (member : c ∈ cs)
    (found : mapAll? cs = some mapped) : c ∈ mapped := by
  induction cs generalizing mapped with
  | nil => cases member
  | cons d rest ih =>
    rw [mapAll?] at found
    split at found
    · rename_i front back here later
      cases found
      rcases List.mem_cons.mp member with rfl | among
      · refine List.mem_append_left _ ?_
        have low : c.toNat ≤ 32 := of_decide_eq_true blank
        rw [mapCharacter?, if_pos (by omega), (not_letter_blank blank).2.2] at here
        cases here
        exact List.mem_singleton_self c
      · exact List.mem_append_right _ (ih among later)
    · cases found

theorem digitValue_blank (blank : isOuterBlank c = true) : Text.digitValue c = none := by
  obtain ⟨letter, digit, -⟩ := not_letter_blank blank
  simp only [Text.digitValue, letter, digit, Bool.false_eq_true, if_false]

theorem punycode_digitValue_blank (blank : isOuterBlank c = true) :
    Punycode.digitValue c = none := by
  obtain ⟨letter, digit, -⟩ := not_letter_blank blank
  simp only [Punycode.digitValue, letter, digit, Bool.false_eq_true, if_false]

theorem mem_splitOn {isSeparator : Char → Bool} (inner : isSeparator c = false) (member : c ∈ cs) :
    ∃ piece ∈ Text.splitOn isSeparator cs, c ∈ piece := by
  induction cs with
  | nil => cases member
  | cons d rest ih =>
    rw [Text.splitOn]
    split_ifs with separates
    · rcases List.mem_cons.mp member with rfl | later
      · rw [inner] at separates
        cases separates
      · obtain ⟨piece, among, within⟩ := ih later
        exact ⟨piece, List.mem_cons_of_mem _ among, within⟩
    · split
      · rename_i none
        rcases List.mem_cons.mp member with rfl | later
        · exact ⟨[c], List.mem_singleton_self _, List.mem_singleton_self _⟩
        · obtain ⟨piece, among, -⟩ := ih later
          rw [none] at among
          cases among
      · rename_i first others pieces
        rcases List.mem_cons.mp member with rfl | later
        · exact ⟨_, List.mem_cons_self, List.mem_cons_self⟩
        · obtain ⟨piece, among, within⟩ := ih later
          rw [pieces] at among
          rcases List.mem_cons.mp among with rfl | other
          · exact ⟨_, List.mem_cons_self, List.mem_cons_of_mem _ within⟩
          · exact ⟨piece, List.mem_cons_of_mem _ other, within⟩

theorem mem_joinLabels {labels : List (List Char)} {label : List Char} (among : label ∈ labels)
    (member : c ∈ label) : c ∈ joinLabels labels := by
  induction labels with
  | nil => cases among
  | cons first others ih =>
    cases others with
    | nil =>
      rw [List.mem_singleton.mp among] at member
      exact member
    | cons second others =>
      rw [joinLabels]
      · rcases List.mem_cons.mp among with rfl | later
        · exact List.mem_append_left _ member
        · exact List.mem_append_right _ (List.mem_cons_of_mem _ (ih later))
      · exact nofun

/-- Digits that are read hold no blank. -/
theorem readNumber_reads {bias k weight i found : Nat} {digits rest : List Char}
    (read : Punycode.readNumber bias digits k weight i = some (found, rest))
    (blank : isOuterBlank c = true) (member : c ∈ digits) : c ∈ rest := by
  induction digits generalizing k weight i with
  | nil => cases member
  | cons digit digits ih =>
    rw [Punycode.readNumber] at read
    split at read
    · cases read
    · rename_i value known
      have other : c ≠ digit := by
        rintro rfl
        rw [punycode_digitValue_blank blank] at known
        cases known
      have later := (List.mem_cons.mp member).resolve_left other
      split_ifs at read
      · cases read
        exact later
      · exact ih read later

theorem mem_readCodes {bias code i : Nat} {label digits decoded : List Char}
    (read : Punycode.readCodes bias code i label digits = some decoded)
    (blank : isOuterBlank c = true) : c ∉ digits ∧ (c ∈ label → c ∈ decoded) := by
  fun_induction Punycode.readCodes bias code i label digits with
  | case1 bias code i label digits ended =>
    cases read
    rw [List.isEmpty_iff.mp ended]
    exact ⟨List.not_mem_nil, id⟩
  | case2 => cases read
  | case3 => cases read
  | case4 bias code i label digits more j rest number count d known ih =>
    obtain ⟨absent, kept⟩ := ih read
    refine ⟨fun member => absent (readNumber_reads number blank member), fun member => kept ?_⟩
    have within : j % count ≤ label.length := Nat.lt_succ_iff.mp (Nat.mod_lt j (Nat.succ_pos _))
    exact (List.mem_insertIdx within).mpr (.inr member)

theorem take_before_digits (front digits : List Char) :
    (front ++ digits).take ((front ++ digits).length - digits.length - 1) = front.dropLast := by
  rw [List.length_append, Nat.add_sub_cancel, List.dropLast_eq_take,
    List.take_append_of_le_length (Nat.sub_le _ _)]

theorem mem_decode {written decoded : List Char} (read : Punycode.decode written = some decoded)
    (blank : isOuterBlank c = true) (member : c ∈ written) : c ∈ decoded := by
  simp only [Punycode.decode] at read
  split_ifs at read
  obtain ⟨absent, kept⟩ := mem_readCodes read blank
  apply kept
  -- What stands before the digits ends in a hyphen, which is no blank.
  have split : written.rdropWhile (· != '-') ++ written.rtakeWhile (· != '-') = written :=
    List.rdropWhile_append_rtakeWhile
  have before : c ∈ written.rdropWhile (· != '-') := by
    rw [← split] at member
    exact (List.mem_append.mp member).resolve_right absent
  have nonempty := List.ne_nil_of_mem before
  have hyphen : (written.rdropWhile (· != '-')).getLast nonempty = '-' := by
    simpa using List.rdropWhile_last_not (· != '-') written nonempty
  have plain : c ∈ (written.rdropWhile (· != '-')).dropLast := by
    rw [← List.dropLast_append_getLast nonempty, hyphen] at before
    refine (List.mem_append.mp before).resolve_right fun last => ?_
    rw [List.mem_singleton.mp last] at blank
    cases blank
  rw [← take_before_digits, split] at plain
  exact plain

theorem mem_readLabel? {label shown : List Char} (blank : isOuterBlank c = true)
    (read : readLabel? label = some shown) (member : c ∈ label) : c ∈ shown := by
  unfold readLabel? at read
  split at read
  · rename_i written starts
    split_ifs at read
    split at read
    · cases read
    · rename_i decoded found
      split_ifs at read
      cases read
      refine mem_decode found blank ?_
      rw [Text.dropStart?_eq_some_iff] at starts
      rw [starts] at member
      refine (List.mem_append.mp member).resolve_left fun marked => ?_
      simp only [List.mem_cons, List.not_mem_nil, or_false] at marked
      rcases marked with rfl | rfl | rfl | rfl <;> cases blank
  · split_ifs at read <;> cases read <;> exact member

theorem mem_writeLabel {label : List Char} (blank : isOuterBlank c = true) (member : c ∈ label) :
    c ∈ writeLabel label := by
  have plain : c.toNat < 128 := Nat.lt_of_le_of_lt (of_decide_eq_true blank) (by decide)
  unfold writeLabel
  split_ifs
  · exact member
  · refine List.mem_append_right _ ?_
    simp only [Punycode.encode, List.append_assoc]
    exact List.mem_append_left _ (List.mem_filter.mpr ⟨member, decide_eq_true plain⟩)

theorem isForbidden_blank (blank : isOuterBlank c = true) : isForbidden c = true := by
  simp only [isForbidden, show decide (c.toNat ≤ 32) = true from blank, Bool.true_or]

theorem mem_mapM {labels shown : List (List Char)} {label : List Char}
    (read : labels.mapM readLabel? = some shown) (among : label ∈ labels) :
    ∃ other ∈ shown, readLabel? label = some other := by
  induction labels generalizing shown with
  | nil => cases among
  | cons first others ih =>
    simp only [List.mapM_cons, Option.pure_def, Option.bind_eq_bind, Option.bind_eq_some_iff,
      Option.some.injEq] at read
    obtain ⟨front, firstRead, back, othersRead, rfl⟩ := read
    rcases List.mem_cons.mp among with rfl | later
    · exact ⟨front, List.mem_cons_self, firstRead⟩
    · obtain ⟨other, member, found⟩ := ih othersRead later
      exact ⟨other, List.mem_cons_of_mem _ member, found⟩

theorem domainOf?_blank (blank : isOuterBlank c = true) (member : c ∈ cs) :
    domainOf? cs = none := by
  unfold domainOf?
  split
  · rfl
  · rename_i mapped found
    have inner : (c == '.') = false := by
      rw [beq_eq_false_iff_ne]
      rintro rfl
      cases blank
    have kept := mem_normalize blank (mem_mapAll? blank member found)
    obtain ⟨piece, among, within⟩ :
        ∃ piece ∈ Text.splitOn (· == '.') (normalize mapped), c ∈ piece := mem_splitOn inner kept
    split
    · rfl
    · rename_i labels read
      split_ifs
      · rfl
      · obtain ⟨label, shown, labelRead⟩ := mem_mapM read among
        refine if_pos ?_
        rw [List.any_eq_true]
        refine ⟨c, ?_, isForbidden_blank blank⟩
        exact mem_joinLabels (List.mem_map_of_mem shown)
          (mem_writeLabel blank (mem_readLabel? blank labelRead within))

/-! ## Hosts -/

theorem foldl_eq_none {step : Option Nat → Char → Option Nat}
    (refused : ∀ total, step total c = none) (stuck : ∀ d, step none d = none) (member : c ∈ cs)
    (total : Option Nat) : cs.foldl step total = none := by
  have stays : ∀ rest : List Char, rest.foldl step none = none := by
    intro rest
    induction rest with
    | nil => rfl
    | cons d rest ih => rw [List.foldl_cons, stuck, ih]
  obtain ⟨front, back, rfl⟩ := List.append_of_mem member
  rw [List.foldl_append, List.foldl_cons, refused, stays]

theorem number?_blank (blank : isOuterBlank c = true) (member : c ∈ cs) (base : Nat) :
    Text.number? base cs = none := by
  unfold Text.number?
  split_ifs
  · rfl
  · refine foldl_eq_none (fun total => ?_) (fun d => rfl) member _
    rw [digitValue_blank blank]
    cases total <;> rfl

theorem byte_of_blank (blank : isOuterBlank c = true) :
    UInt8.ofNat c.toNat ∈ String.utf8EncodeChar c := by
  have plain : c.val.toNat ≤ 127 := Nat.le_trans (of_decide_eq_true blank) (by decide)
  rw [String.utf8EncodeChar]
  simp only [plain, if_true]
  exact List.mem_singleton_self _

/-- A byte that writes a blank is part of no other character. -/
theorem eq_of_byte {d : Char} (blank : isOuterBlank c = true)
    (member : UInt8.ofNat c.toNat ∈ String.utf8EncodeChar d) : d = c := by
  have low : c.toNat ≤ 32 := of_decide_eq_true blank
  have byte : ∀ n, n < 256 → UInt8.ofNat c.toNat = UInt8.ofNat n → c.toNat = n := by
    intro n small same
    have values := congrArg UInt8.toNat same
    rw [UInt8.toNat_ofNat', UInt8.toNat_ofNat'] at values
    omega
  simp only [String.utf8EncodeChar] at member
  split_ifs at member with one two three
  · have same := byte _ (by omega) (List.mem_singleton.mp member)
    exact Char.toNat_inj.mp same.symm
  -- The bytes of a character that takes several are all beyond ASCII.
  all_goals
    simp only [List.mem_cons, List.not_mem_nil, or_false] at member
    exfalso
  · rcases member with same | same <;> have := byte _ (by omega) same <;> omega
  · rcases member with same | same | same <;> have := byte _ (by omega) same <;> omega
  · rcases member with same | same | same | same <;> have := byte _ (by omega) same <;> omega

theorem mem_percentDecode (blank : isOuterBlank c = true) (member : c ∈ cs) :
    UInt8.ofNat c.toNat ∈ percentDecode cs := by
  fun_induction percentDecode cs with
  | case1 a b rest n read ih =>
    refine List.mem_cons_of_mem _ (ih ?_)
    simp only [List.mem_cons] at member
    rcases member with rfl | rfl | rfl | later
    · cases blank
    · rw [number?_blank blank List.mem_cons_self] at read
      cases read
    · rw [number?_blank blank (List.mem_cons_of_mem _ List.mem_cons_self)] at read
      cases read
    · exact later
  | case2 a b rest read ih =>
    refine List.mem_cons_of_mem _ (ih ?_)
    rcases List.mem_cons.mp member with rfl | later
    · cases blank
    · exact later
  | case3 d rest _ ih =>
    rcases List.mem_cons.mp member with rfl | later
    · exact List.mem_append_left _ (byte_of_blank blank)
    · exact List.mem_append_right _ (ih later)
  | case4 => cases member

theorem mem_decoded {bytes : List UInt8} {text : String}
    (read : Text.decode ⟨bytes.toArray⟩ = .ok text)
    (blank : isOuterBlank c = true) (member : UInt8.ofNat c.toNat ∈ bytes) : c ∈ text.toList := by
  have written : text.toList.flatMap String.utf8EncodeChar = bytes := by
    unfold Text.decode at read
    split at read
    · rename_i found
      cases read
      unfold String.fromUTF8? at found
      split_ifs at found with valid
      cases found
      have whole : (String.fromUTF8 ⟨bytes.toArray⟩ valid).toList.utf8Encode = ⟨bytes.toArray⟩ :=
        String.utf8Encode_toList
      have listed := congrArg ByteArray.data whole
      simpa [List.utf8Encode] using listed
    · cases read
  rw [← written] at member
  obtain ⟨d, among, encoded⟩ := List.mem_flatMap.mp member
  rw [← eq_of_byte blank encoded]
  exact among

variable {blanks : List Char}

theorem hostOf_blank (blank : isOuterBlank c = true) (member : c ∈ cs) (host : Host)
    (last : ∀ c ∈ cs.getLast?, c ≠ ']') : hostOf cs ≠ .ok host := by
  unfold hostOf
  split
  · rename_i inside
    unfold bracketedHost
    split
    · rename_i ends
      have closing : inside.getLast? = some ']' := by
        rw [← List.head?_reverse, ends]
        rfl
      refine absurd rfl (last ']' ?_)
      rw [List.getLast?_cons, closing]
      rfl
    · exact nofun
  · split
    · exact nofun
    · rename_i name decoded
      rw [domainOf?_blank blank (mem_decoded decoded blank (mem_percentDecode blank member))]
      exact nofun

theorem portOf_blank (blank : isOuterBlank c = true) (member : c ∈ cs) (scheme : List Char)
    (port : Option Nat) : portOf scheme cs ≠ .ok port := by
  unfold portOf
  have nonempty : cs.isEmpty = false := by
    cases cs with
    | nil => cases member
    | cons => rfl
  rw [nonempty, number?_blank blank member]
  exact nofun

theorem splitPort_blanks (bracketed : Bool) (blank : ∀ c ∈ blanks, isOuterBlank c = true) :
    splitPort bracketed blanks = (blanks, none) := by
  induction blanks generalizing bracketed with
  | nil => rfl
  | cons c rest ih =>
    obtain ⟨first, others⟩ := List.forall_mem_cons.mp blank
    have noColon : (c == ':') = false := by
      rw [beq_eq_false_iff_ne]
      rintro rfl
      cases first
    rw [splitPort, noColon, ih _ others]
    rfl

theorem splitPort_append (bracketed : Bool) (blank : ∀ c ∈ blanks, isOuterBlank c = true)
    (text : List Char) :
    splitPort bracketed (text ++ blanks) =
      match splitPort bracketed text with
      | (host, some port) => (host, some (port ++ blanks))
      | (host, none) => (host ++ blanks, none) := by
  induction text generalizing bracketed with
  | nil =>
    rw [List.nil_append, splitPort]
    exact splitPort_blanks bracketed blank
  | cons c rest ih =>
    rw [List.cons_append, splitPort, splitPort]
    by_cases divides : (c == ':' && !bracketed) = true
    · rw [if_pos divides, if_pos divides]
    · rw [if_neg divides, if_neg divides, ih]
      rcases splitPort _ rest with ⟨host, _ | port⟩ <;> rfl

theorem splitUser_append (blank : ∀ c ∈ blanks, isOuterBlank c = true) (authority : List Char) :
    splitUser (authority ++ blanks) =
      ((splitUser authority).1, (splitUser authority).2 ++ blanks) := by
  have passed : ∀ c ∈ blanks.reverse, (c != '@') = true := by
    intro c member
    rw [bne_iff_ne]
    rintro rfl
    cases blank _ (List.mem_reverse.mp member)
  unfold splitUser
  rw [List.reverse_append, List.dropWhile_append_of_pos passed, List.takeWhile_append_of_pos passed]
  split
  · rw [List.reverse_append, List.reverse_reverse]
  · rfl

theorem readAuthority_blank {scheme : List Char} (hosted : isHosted scheme = true)
    (blank : ∀ c ∈ blanks, isOuterBlank c = true) (nonempty : blanks ≠ []) (authority : List Char)
    (url : Url) : readAuthority scheme (authority ++ blanks) ≠ .ok url := by
  obtain ⟨c, member⟩ := List.exists_mem_of_ne_nil blanks nonempty
  simp only [readAuthority, splitUser_append blank, splitPort_append false blank, hosted, if_true]
  rcases splitPort false (splitUser authority).2 with ⟨host, _ | port⟩
  · dsimp only
    have last : ∀ c ∈ (host ++ blanks).getLast?, c ≠ ']' := by
      intro c ends
      rw [List.getLast?_append_of_ne_nil _ nonempty] at ends
      rintro rfl
      cases blank _ (List.mem_of_getLast? ends)
    split_ifs
    · exact nofun
    · split
      · exact nofun
      · rename_i read
        exact absurd read
          (hostOf_blank (blank c member) (List.mem_append_right _ member) _ last)
  · dsimp only
    split_ifs
    · exact nofun
    · split
      · exact nofun
      · split
        · exact nofun
        · rename_i read
          exact absurd read (portOf_blank (blank c member) (List.mem_append_right _ member) _ _)

end IssueFeed.Url
