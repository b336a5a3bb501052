import NameRoles.Cache.Session
import NameRoles.CommandLine.FileTree
import NameRoles.Formula.Printer
import NameRoles.Main
import NameRoles.Proofs.Cache.History
import NameRoles.Proofs.Cache.Invalidation
import NameRoles.Proofs.Cache.Session
import NameRoles.Proofs.Cache.Solo
import NameRoles.Proofs.Client.Listing
import NameRoles.Proofs.Formula.Containment
import NameRoles.Proofs.Formula.Continuation
import NameRoles.Proofs.Formula.Drawing
import NameRoles.Proofs.Formula.OpenGroups
import NameRoles.Proofs.Formula.Separators
import NameRoles.Proofs.Gates
import NameRoles.Proofs.Rule.Canonical
import NameRoles.Proofs.Rule.Collision
import NameRoles.Proofs.Rule.Draft
import NameRoles.Proofs.Rule.Height
import NameRoles.Proofs.Rule.Leaves
import NameRoles.Proofs.Rule.LetterCase
import NameRoles.Proofs.Rule.Loading
import NameRoles.Proofs.Rule.Soundness
import NameRoles.Proofs.Settings
import NameRoles.Proofs.Snapshot.Lookup
