import SheetIntake.Proofs.Decimal.IntegerRange
import SheetIntake.Proofs.Row.Remapped
import SheetIntake.Proofs.Row.Respelled
import SheetIntake.Proofs.Schema.Consistency
import SheetIntake.Proofs.Schema.Registry
import SheetIntake.Proofs.Schema.ReportedFile
import SheetIntake.Proofs.Service.Accounting
import SheetIntake.Proofs.Service.Alignment
import SheetIntake.Proofs.Service.CleanRows
import SheetIntake.Proofs.Service.ExportedUpload
import SheetIntake.Proofs.Service.HandedOver
import SheetIntake.Proofs.Service.History
import SheetIntake.Proofs.Service.Interleaving
import SheetIntake.Proofs.Service.OriginList
import SheetIntake.Proofs.Service.UploadLimit
import SheetIntake.Proofs.Service.UploadReport
import SheetIntake.Proofs.Service.WholeReview
import SheetIntake.Proofs.Sheet.HeaderColumn
import SheetIntake.Proofs.Sheet.Rearranged
import SheetIntake.Proofs.Sheet.RepeatedName
import SheetIntake.Proofs.Store.DateReaders
import SheetIntake.Proofs.Store.WholeBatch
import SheetIntake.Proofs.Workbook.ExportedText
import SheetIntake.Proofs.Workbook.GivenTitle
import SheetIntake.Proofs.Workbook.Layout
import SheetIntake.Service.Http
import SheetIntake.Service.Journal
import SheetIntake.Service.Reply
