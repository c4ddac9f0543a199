import BookFilter.Main
import BookFilter.Proofs.Stripping
import BookFilter.Proofs.Rendering
import BookFilter.Proofs.Lines
import BookFilter.Proofs.Positions
import BookFilter.Proofs.Walks
import BookFilter.Proofs.Calls
import BookFilter.Proofs.Json.Numerals
import BookFilter.Proofs.Json.Quotations
import BookFilter.Proofs.Json.ReadBack
import BookFilter.Proofs.BookJson
import BookFilter.Proofs.Requests
import BookFilter.Proofs.Runs
import BookFilter.Proofs.Isolation
import BookFilter.Proofs.HookOrder
import BookFilter.Proofs.WholeMarkers
import BookFilter.Proofs.Occurrences
import BookFilter.Proofs.Reports
import BookFilter.Proofs.Configurations
import BookFilter.Proofs.Faults
import BookFilter.Proofs.Defaults
import BookFilter.Proofs.NameLists
import BookFilter.Proofs.BrokenMarkers
import BookFilter.Proofs.Addresses
import BookFilter.Proofs.Leftovers
import BookFilter.Proofs.Versions
import BookFilter.Proofs.Casing
import BookFilter.Proofs.WrittenSettings
import BookFilter.Proofs.Visits
