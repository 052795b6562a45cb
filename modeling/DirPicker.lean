import DirPicker.FileTree
import DirPicker.Main
import DirPicker.Pattern.Program
import DirPicker.Proofs.AbsolutePaths
import DirPicker.Proofs.Exclusion
import DirPicker.Proofs.FilterMeaning
import DirPicker.Proofs.ListingFormat
import DirPicker.Proofs.Selection
import DirPicker.Proofs.WorkspaceRoot
import DirPicker.Proofs.Containment
import DirPicker.Proofs.Destination
import DirPicker.Proofs.Narrowing
import DirPicker.Proofs.Outcome
import DirPicker.Proofs.Opening
import DirPicker.Proofs.RowNumbers
import DirPicker.Proofs.Scrolling
import DirPicker.Proofs.Highlight
import DirPicker.Proofs.RefusedPatterns
import DirPicker.Proofs.SettingLists
import DirPicker.Proofs.PrefixExchange
import DirPicker.Proofs.Escaping
import DirPicker.Proofs.SystemMessages
import DirPicker.Proofs.SingleLines
import DirPicker.Proofs.Cycle
import DirPicker.Proofs.JoinedListings
import DirPicker.Proofs.RowTexts
import DirPicker.Proofs.Editing
import DirPicker.Proofs.Segments
import DirPicker.Proofs.ExactValue
import DirPicker.Proofs.ScoreCells
