import DelimiterScan.Cache
import DelimiterScan.Json.Decode
import DelimiterScan.Text.Padding
import DelimiterScan.Proofs.Reaction
import DelimiterScan.Proofs.Regions
import DelimiterScan.Proofs.Document
import DelimiterScan.Proofs.Document.Scan
import DelimiterScan.Proofs.Alike
import DelimiterScan.Proofs.Cache.History
import DelimiterScan.Proofs.Cache.Transparency
import DelimiterScan.Proofs.Spans
import DelimiterScan.Proofs.Tiling
import DelimiterScan.Proofs.Aligned
import DelimiterScan.Proofs.Indexed
import DelimiterScan.Proofs.Indexed.Represents
import DelimiterScan.Proofs.Indexed.Faultless
import DelimiterScan.Proofs.Matches
import DelimiterScan.Proofs.Cuts
import DelimiterScan.Proofs.Opened
import DelimiterScan.Proofs.Extended
import DelimiterScan.Proofs.Separator.Front
import DelimiterScan.Proofs.Separator
import DelimiterScan.Proofs.KeySet
import DelimiterScan.Proofs.Cache.Invariant
import DelimiterScan.Proofs.Cache.Requests
import DelimiterScan.Proofs.Cache.Residency
import DelimiterScan.Proofs.Cache.Bounds
import DelimiterScan.Proofs.Nesting
import DelimiterScan.Proofs.Limit
import DelimiterScan.Proofs.Comments
import DelimiterScan.Proofs.KeptDelimiters
import DelimiterScan.Proofs.Tail
import DelimiterScan.Proofs.Pattern.Program
import DelimiterScan.Proofs.Pattern.Escapes
import DelimiterScan.Proofs.Pattern.Brackets
import DelimiterScan.Proofs.Pattern.Openings
import DelimiterScan.Proofs.Pattern.Bodies
import DelimiterScan.Proofs.Pattern.Anchoring
import DelimiterScan.Proofs.LetterCase
import DelimiterScan.Proofs.Truncation
import DelimiterScan.Proofs.OpenRegions
import DelimiterScan.Proofs.Unclosed
import DelimiterScan.Proofs.BlockEdges
import DelimiterScan.Proofs.Indivisible
import DelimiterScan.Proofs.Trials
import DelimiterScan.Proofs.KeyOrder
import DelimiterScan.Proofs.Uncut
import DelimiterScan.Proofs.Precompiled
