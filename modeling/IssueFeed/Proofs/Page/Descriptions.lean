import IssueFeed.Feed.Merge
import IssueFeed.Proofs.Page.Anchors

/-! The descriptions of issues.
A description is made plain where it is found and again where it is recorded; the second time
changes nothing. -/
namespace IssueFeed

open Text (plain isPlain runs flattened RunsOn)

theorem description_recorded {source : SourceConfig} {page : Html.Document} {finding : Finding}
    (found : finding ∈ findings source page) (config : Config) (stamp : String) :
    (Merge.itemOf config stamp finding.candidate).description =
      finding.candidate.description.getD "" := by
  rw [findings_eq] at found
  obtain ⟨anchor, -, rfl⟩ := List.mem_map.mp found
  rw [Merge.itemOf, findingAt]
  cases descriptionOf? anchor with
  | none => rfl
  | some part => exact Text.plain_plain part.text

/-- In a plain text each longest run of characters that are not plain has become one space, and
nothing else has changed: plain characters alone are left, and spaces aside they are those of the
text. Texts are made plain one by one, only that a run which goes on from one into the next becomes
one space and not two. What is plain stays as it is, and so a description is recorded as it was
found. -/
theorem plain_exact (text other : String) :
    (plain text).toList = (runs text.toList).flatMap flattened ∧
      (∀ c ∈ (plain text).toList, isPlain c = true) ∧
      (plain text).toList.filter (· != ' ') =
        text.toList.filter (fun c => isPlain c && c != ' ') ∧
      (¬ RunsOn text.toList other.toList → plain (text ++ other) = plain text ++ plain other) ∧
      (RunsOn text.toList other.toList → ∃ front back, plain text = front ++ " " ∧
        plain other = " " ++ back ∧ plain (text ++ other) = front ++ " " ++ back) ∧
      plain (plain text) = plain text ∧
      ∀ (source : SourceConfig) (page : Html.Document) (config : Config) (stamp : String),
        ∀ finding ∈ findings source page,
          (Merge.itemOf config stamp finding.candidate).description =
            finding.candidate.description.getD "" := by
  refine ⟨?_, Text.plain_isPlain text, ?_, fun apart => ?_, fun joined => ?_,
    Text.plain_plain text, fun _ _ config stamp _ found => description_recorded found config stamp⟩
  · rw [plain, String.toList_ofList, Text.plainFrom_runs]
  · rw [plain, String.toList_ofList, Text.filter_plainFrom]
  · rw [plain, String.toList_append, Text.plainFrom_apart apart, String.ofList_append]
    rfl
  · obtain ⟨front, back, ends, begins, whole⟩ := Text.plainFrom_joined joined
    refine ⟨String.ofList front, String.ofList back, ?_, ?_, ?_⟩
    · rw [plain, ends, String.ofList_append]
    · rw [plain, begins, ← List.singleton_append, String.ofList_append]
    · rw [plain, String.toList_append, whole, ← List.singleton_append, String.ofList_append,
        String.ofList_append, String.append_assoc]

end IssueFeed
