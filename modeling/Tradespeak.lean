import Tradespeak.Text.Basic
import Tradespeak.Text.Blank
import Tradespeak.Text.DecimalDigit
import Tradespeak.Text.Printable
import Tradespeak.Text.WordChar
import Tradespeak.Text.LetterCase
import Tradespeak.Text.Quoted
import Tradespeak.Text.Lines
import Tradespeak.Refusal
import Tradespeak.Numeral
import Tradespeak.Table
import Tradespeak.Vocabulary
import Tradespeak.Pattern.Basic
import Tradespeak.Pattern.Match
import Tradespeak.Pattern.Reader
import Tradespeak.Decimal.Basic
import Tradespeak.Decimal.Arithmetic
import Tradespeak.Decimal.Reader
import Tradespeak.Decimal.Printer
import Tradespeak.Text.Utf8
import Tradespeak.Request
import Tradespeak.Market
import Tradespeak.Journal
import Tradespeak.FrontEnd.Arguments
import Tradespeak.FrontEnd.FileStore
import Tradespeak.FrontEnd.Conversation
import Tradespeak.FrontEnd.Query
import Tradespeak.FrontEnd.Run
import Tradespeak.FrontEnd.Demonstration
import Tradespeak.Main
import Tradespeak.Proofs.Numeral.Canonical
import Tradespeak.Proofs.Pattern.Grammar
import Tradespeak.Proofs.Pattern.Greedy
import Tradespeak.Proofs.Market.Step
import Tradespeak.Proofs.Pattern.Unambiguous
import Tradespeak.Proofs.Text.Words
import Tradespeak.Proofs.Text.Classes
import Tradespeak.Proofs.Text.Trim
import Tradespeak.Proofs.Request.Fields
import Tradespeak.Proofs.Request.Question
import Tradespeak.Proofs.Request.PriceLine
import Tradespeak.Proofs.Request.CostQuestion
import Tradespeak.Proofs.Decimal.Rounding
import Tradespeak.Proofs.Decimal.Printing
import Tradespeak.Proofs.Market.Run
import Tradespeak.Proofs.Market.WellFormed
import Tradespeak.Proofs.Market.NumberQuestion
import Tradespeak.Proofs.Market.Permanence
import Tradespeak.Proofs.Market.Agreement
import Tradespeak.Proofs.Market.Order
import Tradespeak.Proofs.Market.CostQuestion
import Tradespeak.Proofs.Request.Overlap
import Tradespeak.Proofs.Market.FormOrder
import Tradespeak.Proofs.Market.Events
import Tradespeak.Proofs.Market.Reopening
import Tradespeak.Proofs.Decimal.Overflow
import Tradespeak.Proofs.Market.Totality
import Tradespeak.Proofs.Text.Lines
import Tradespeak.Proofs.Text.Quoted
import Tradespeak.Proofs.Decimal.RelativeError
import Tradespeak.Proofs.Decimal.Format
import Tradespeak.Proofs.Decimal.ReadBack
import Tradespeak.Proofs.Market.Accuracy
import Tradespeak.Proofs.Journal.Reading
import Tradespeak.Proofs.FrontEnd.Conversation
import Tradespeak.Proofs.FrontEnd.FileStore
import Tradespeak.Proofs.FrontEnd.OutputFile
import Tradespeak.Proofs.FrontEnd.Query
import Tradespeak.Proofs.FrontEnd.Log
import Tradespeak.Proofs.Request.Following
import Tradespeak.Proofs.Request.Sentences
import Tradespeak.Proofs.Decimal.PlainForm
import Tradespeak.Proofs.Numeral.Textbook
import Tradespeak.Proofs.Market.Proportion
import Tradespeak.Proofs.FrontEnd.OutputLines
import Tradespeak.Proofs.FrontEnd.Arguments
import Tradespeak.Proofs.FrontEnd.FailedRun
import Tradespeak.Proofs.Market.Counts
import Tradespeak.Proofs.Market.Margins
import Tradespeak.Proofs.Decimal.Monotone
import Tradespeak.Proofs.Market.PriceOrder
import Tradespeak.Proofs.Pattern.Faults
