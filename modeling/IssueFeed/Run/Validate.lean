import IssueFeed.Config.Check
import IssueFeed.Failure
import IssueFeed.Log

/-!
The configuration check as a run of its own, which reports the settings in effect.
-/
namespace IssueFeed

def Config.validate (config : Config) : Except Failure Unit :=
  match config.fault? with
  | some fault => .error (.validation fault.message)
  | none => .ok ()

def runValidate (config : Config) : Except Failure Unit × Log :=
  let opening : Report := ⟨.info, "Validating configuration..."⟩
  match config.validate with
  | .error failure =>
    (.error failure, [opening, ⟨.error, s!"Config validation failed: {failure.message}"⟩])
  | .ok () =>
    let marker := config.source.topicMarker
    let ending := config.source.documentExtension
    (.ok (),
      [opening,
        ⟨.info, "Config OK"⟩,
        ⟨.info, s!"    Source page: {config.source.pageUrl}"⟩,
        ⟨.info, s!"    Origin: {config.source.origin}"⟩,
        ⟨.info, s!"    Matching: *{marker}* ending in {ending}"⟩,
        ⟨.info, s!"    Feed file: {config.feed.outputPath}"⟩,
        ⟨.info, s!"    Timeout: {config.crawler.timeoutSeconds}s"⟩])

end IssueFeed
