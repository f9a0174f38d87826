import IssueFeed.Run.Validate

/-! What is known of a configuration that passes the check. -/
namespace IssueFeed

/-- The text is an address of one of the two protocols of the web. -/
def IsWebAddress (text : String) : Prop :=
  ∃ url, Url.read text = .ok url ∧ url.isWeb = true

theorem webFault?_eq_none_iff {field text : String} :
    webFault? field text = none ↔ IsWebAddress text := by
  unfold webFault? IsWebAddress
  cases Url.read text <;> simp

namespace Config

variable {config : Config}

theorem validate_eq_ok_iff : config.validate = .ok () ↔ config.fault? = none := by
  unfold validate
  cases config.fault? <;> simp

theorem validate_failure {failure : Failure} (unsound : config.validate = .error failure) :
    ∃ message, failure = .validation message := by
  unfold validate at unsound
  split at unsound
  · cases unsound
    exact ⟨_, rfl⟩
  · cases unsound

theorem fault?_eq_none_iff :
    config.fault? = none ↔
      config.crawler.fault? = none ∧ config.source.fault? = none ∧ config.feed.fault? = none := by
  rw [fault?, Option.or_eq_none_iff, Option.or_eq_none_iff, and_assoc]

theorem addresses_of_validate (sound : config.validate = .ok ()) :
    IsWebAddress config.source.pageUrl ∧ IsWebAddress config.source.origin := by
  obtain ⟨-, source, -⟩ := fault?_eq_none_iff.mp (validate_eq_ok_iff.mp sound)
  unfold SourceConfig.fault? at source
  split at source
  · cases source
  · split at source
    · cases source
    · rw [Option.or_eq_none_iff, webFault?_eq_none_iff, webFault?_eq_none_iff] at source
      exact source

end Config

end IssueFeed
