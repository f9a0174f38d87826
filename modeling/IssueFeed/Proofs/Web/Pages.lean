import IssueFeed.Proofs.Run.History

/-! Which answers are pages.
A page is the body of an answer that is no error, has come whole and shows something. Whatever else
becomes of the request is a failure to fetch the page, and then an update leaves the disk alone. -/
namespace IssueFeed

open Store (Disk)

variable {network : Network} {client pageUrl : String} {failure : Failure} {response : Response}

theorem requestFor_failure (failed : requestFor client pageUrl = .error failure) :
    ∃ rest, failure = .fetch pageUrl ("builder error" ++ rest) := by
  unfold requestFor at failed
  cases read : Url.read pageUrl with
  | error fault =>
    rw [read] at failed
    cases failed
    exact ⟨"", rfl⟩
  | ok url =>
    rw [read] at failed
    dsimp only at failed
    have named (asked : Url) : s!"builder error for url ({asked.text})" =
        "builder error" ++ (" for url (" ++ asked.text ++ ")") := rfl
    split_ifs at failed <;> cases failed <;> exact ⟨_, congrArg _ (named _)⟩

/-! ## One answer -/

/-- The response brings a page. -/
structure Response.IsPage (response : Response) : Prop where
  noError : ¬ (400 ≤ response.status ∧ response.status < 600)
  whole : response.truncated = false
  shows : ∃ c ∈ (Text.decodeLenient response.body).toList, Text.isBlank c = false

theorem Response.IsPage.pageOf (isPage : response.IsPage) (pageUrl : String) (url : Url) :
    pageOf pageUrl url response = .ok (Text.decodeLenient response.body) := by
  have visible : (Text.decodeLenient response.body).toList.all Text.isBlank = false :=
    List.all_eq_false.mpr (by simpa using isPage.shows)
  have noError := isPage.noError
  unfold IssueFeed.pageOf
  extract_lets status body
  rw [if_neg (by omega), if_neg (by omega), isPage.whole, if_neg Bool.false_ne_true, visible,
    if_neg Bool.false_ne_true]

theorem pageOf_of_not_isPage (noPage : ¬ response.IsPage) (pageUrl : String) (url : Url) :
    ∃ message, pageOf pageUrl url response = .error (.fetch pageUrl message) := by
  unfold pageOf
  extract_lets status body
  split_ifs with client server cut blank
  · exact ⟨_, rfl⟩
  · exact ⟨_, rfl⟩
  · exact ⟨_, rfl⟩
  · exact ⟨_, rfl⟩
  · refine absurd ⟨by omega, by simpa using cut, ?_⟩ noPage
    simpa using blank

/-! ## One request -/

/-- The request for the page can be made, and this is the answer to it. -/
def Answers (network : Network) (client pageUrl : String) (response : Response) : Prop :=
  ∃ request, requestFor client pageUrl = .ok request ∧ network request = .answered response

theorem Answers.fetchPage (answers : Answers network client pageUrl response)
    (isPage : response.IsPage) :
    (fetchPage network client pageUrl).result = .ok (Text.decodeLenient response.body) := by
  obtain ⟨request, ready, answered⟩ := answers
  simp only [IssueFeed.fetchPage, ready, answered, isPage.pageOf]

theorem fetchPage_of_no_page
    (noPage : ∀ response, Answers network client pageUrl response → ¬ response.IsPage) :
    ∃ message, (fetchPage network client pageUrl).result = .error (.fetch pageUrl message) := by
  unfold fetchPage
  cases ready : requestFor client pageUrl with
  | error failure =>
    obtain ⟨rest, rfl⟩ := requestFor_failure ready
    exact ⟨_, rfl⟩
  | ok request =>
    dsimp only
    cases exchanged : network request with
    | unreachable => exact ⟨_, rfl⟩
    | closed => exact ⟨_, rfl⟩
    | answered response =>
      obtain ⟨message, refused⟩ :=
        pageOf_of_not_isPage (noPage response ⟨request, ready, exchanged⟩) pageUrl request.url
      exact ⟨message, by simp only [refused]⟩

theorem fetchPage_failure (failed : (fetchPage network client pageUrl).result = .error failure) :
    ∃ message, failure = .fetch pageUrl message := by
  obtain ⟨message, refused⟩ := fetchPage_of_no_page fun response answers isPage =>
    nomatch failed.symm.trans (answers.fetchPage isPage)
  exact ⟨message, Except.error.inj (failed.symm.trans refused)⟩

/-- Either a page answers, and exactly its text is fetched; or none does, and an update fails to
fetch and leaves the disk as it was. -/
theorem fetched_or_untouched (config : Config) (now : Instant) (client : String)
    (network : Network) (disk : Disk) :
    let pageUrl := config.source.pageUrl
    let fetched := (fetchPage network client pageUrl).result
    let updated := runUpdate config now client network disk
    (∃ response, Answers network client pageUrl response ∧ response.IsPage ∧
        fetched = .ok (Text.decodeLenient response.body)) ∨
      (∀ response, Answers network client pageUrl response → ¬ response.IsPage) ∧
        ∃ message, fetched = .error (.fetch pageUrl message) ∧
          updated.result = .error (.fetch pageUrl message) ∧ updated.disk = disk := by
  intro pageUrl fetched updated
  by_cases page : ∃ response, Answers network client pageUrl response ∧ response.IsPage
  · obtain ⟨response, answers, isPage⟩ := page
    exact .inl ⟨response, answers, isPage, answers.fetchPage isPage⟩
  · have noPage : ∀ response, Answers network client pageUrl response → ¬ response.IsPage :=
      fun response answers isPage => page ⟨response, answers, isPage⟩
    obtain ⟨message, missed⟩ := fetchPage_of_no_page noPage
    refine .inr ⟨noPage, message, missed, ?_⟩
    simp only [updated, runUpdate, missed, pageUrl, and_self]

/-- An answer that is neither a success nor an error brings a page too, and the feed is written. -/
theorem redirection_recorded :
    let call : Call "feed.xml" :=
      { plainCall with
        network := fun _ => .answered { status := 300, body := "inhalt".toUTF8 } }
    let updated := call.update (Disk.fresh [])
    (fetchPage call.network call.client call.config.source.pageUrl).result = .ok "inhalt" ∧
      updated.result.isOk = true ∧ updated.disk ≠ Disk.fresh [] := by
  decide

end IssueFeed
