import ChestMenu.Actor.Document
import ChestMenu.Context.Document
import ChestMenu.Main
import ChestMenu.Markup.Tagged
import ChestMenu.Menu.Outline
import ChestMenu.Smoke
import ChestMenu.Web.Bundle
import ChestMenu.Web.Host
import ChestMenu.Proofs.Outcome
import ChestMenu.Proofs.Sessions
import ChestMenu.Proofs.ClickOrder
import ChestMenu.Proofs.Drawing
import ChestMenu.Proofs.Freshness
import ChestMenu.Proofs.Isolation
import ChestMenu.Proofs.Lockstep
import ChestMenu.Proofs.Claimant
import ChestMenu.Proofs.Dispatch
import ChestMenu.Proofs.Visibility
import ChestMenu.Proofs.Paging
import ChestMenu.Proofs.Reloading
import ChestMenu.Proofs.Admission
import ChestMenu.Proofs.Registries
import ChestMenu.Proofs.Naming
import ChestMenu.Proofs.Caching
import ChestMenu.Proofs.Loaded
import ChestMenu.Proofs.Revival
import ChestMenu.Proofs.OpenMenus
import ChestMenu.Proofs.Turns
import ChestMenu.Proofs.Scanning
import ChestMenu.Proofs.Interrupted
import ChestMenu.Proofs.Sizes
import ChestMenu.Proofs.Bookkeeping
import ChestMenu.Proofs.Branching
import ChestMenu.Proofs.Rereading
import ChestMenu.Proofs.PlainData
import ChestMenu.Proofs.Loadable
import ChestMenu.Proofs.WellFormed
import ChestMenu.Proofs.Overlaps
import ChestMenu.Proofs.Building
import ChestMenu.Proofs.PlainMenus
import ChestMenu.Proofs.Attending
import ChestMenu.Proofs.Typing
import ChestMenu.Proofs.Requests
import ChestMenu.Proofs.Stacking
import ChestMenu.Proofs.Patching
import ChestMenu.Proofs.Layers
import ChestMenu.Proofs.Precedence
import ChestMenu.Proofs.Lookups
import ChestMenu.Proofs.Substitution
import ChestMenu.Proofs.Comparisons
import ChestMenu.Proofs.HandlerHistory
import ChestMenu.Proofs.Opening
import ChestMenu.Proofs.PageItems
import ChestMenu.Proofs.Conditions
import ChestMenu.Proofs.PageChanges
import ChestMenu.Proofs.SlotLists
import ChestMenu.Proofs.Introspection
