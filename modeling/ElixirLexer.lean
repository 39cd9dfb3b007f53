import ElixirLexer.Main
import ElixirLexer.Counting
import ElixirLexer.Log.Record
import ElixirLexer.Stream.Session
import ElixirLexer.Proofs.Partition
import ElixirLexer.Proofs.WellNested
import ElixirLexer.Proofs.HeredocIndent
import ElixirLexer.Proofs.Account
import ElixirLexer.Proofs.Rewinding
import ElixirLexer.Proofs.StreamIndex
import ElixirLexer.Proofs.OptionEffects
import ElixirLexer.Proofs.Clients
import ElixirLexer.Proofs.Concatenation
import ElixirLexer.Proofs.InterpolatedCode
import ElixirLexer.Proofs.Past
import ElixirLexer.Proofs.DepthCounters
import ElixirLexer.Proofs.Delimiters
import ElixirLexer.Proofs.PlainHeredocs
import ElixirLexer.Proofs.SelfDelimiting
import ElixirLexer.Proofs.Stripping
import ElixirLexer.Proofs.SigilPieces
import ElixirLexer.Proofs.Positions
import ElixirLexer.Proofs.RuleOrder
import ElixirLexer.Proofs.Outcomes
import ElixirLexer.Proofs.LogRecords
import ElixirLexer.Proofs.TokenDump
