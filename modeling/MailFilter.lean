import MailFilter.Main
import MailFilter.Settings.Json
import MailFilter.Proofs.Trail
import MailFilter.Proofs.Reading
import MailFilter.Proofs.Grammar
import MailFilter.Proofs.Limit
import MailFilter.Proofs.Accepted
import MailFilter.Proofs.Threshold
import MailFilter.Proofs.Nodes
import MailFilter.Proofs.Reread
import MailFilter.Proofs.Recovery
import MailFilter.Proofs.Obtainable
import MailFilter.Proofs.RoundTrip
import MailFilter.Proofs.Canonical
import MailFilter.Proofs.Refusal
import MailFilter.Proofs.Tokens
import MailFilter.Proofs.PolishReading
import MailFilter.Proofs.Agreement
import MailFilter.Proofs.Relocation
import MailFilter.Proofs.Place
import MailFilter.Proofs.Reach
import MailFilter.Proofs.Brackets
import MailFilter.Proofs.Spelling
import MailFilter.Proofs.Json.Order
import MailFilter.Proofs.Diagnosis
import MailFilter.Proofs.Json.Lexeme
import MailFilter.Proofs.Json.Compact
import MailFilter.Proofs.Printed
import MailFilter.Proofs.SearchReading
import MailFilter.Proofs.SearchReread
import MailFilter.Proofs.Longhand
import MailFilter.Proofs.Warnings
import MailFilter.Proofs.Settings.Library
import MailFilter.Proofs.Settings.Loading
