import FormCheck.FormProperties
import FormCheck.Session
import FormCheck.Settings.Document
import FormCheck.Proofs.Rule.RoundTrip
import FormCheck.Proofs.Rule.Reading
import FormCheck.Proofs.Rule.WrittenForm
import FormCheck.Proofs.RuleBook.Filling
import FormCheck.Proofs.RuleBook.Spelling
import FormCheck.Proofs.Judgement.Directives
import FormCheck.Proofs.Run.Marks
import FormCheck.Proofs.Run.Report
import FormCheck.Proofs.Run.Agreement
import FormCheck.Proofs.Run.Order
import FormCheck.Proofs.Run.Locality
import FormCheck.Proofs.Session.History
import FormCheck.Proofs.Numeral.Order
import FormCheck.Proofs.Calendar.Written
import FormCheck.Proofs.Email
import FormCheck.Proofs.Numeral.Count
import FormCheck.Proofs.Judgement.Arguments
import FormCheck.Proofs.Run.Markup
import FormCheck.Proofs.Form.Edits
