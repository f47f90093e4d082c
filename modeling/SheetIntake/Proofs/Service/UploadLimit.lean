import SheetIntake.Service.Http

/-!
# Reading no further than the limit

The route of uploads reads one byte more than an upload may have and no further. That byte is enough
to tell a file that is too long, and a file that is not is read to its end, so the answer is that to
the whole file (`upload_of_first_bytes`). What bytes hold does not matter: it is a parameter here,
and the first bytes of a workbook may hold another workbook.
-/

namespace SheetIntake

namespace Workbook.File

/-- Bytes as a file, for any reading of bytes as a workbook. -/
def ofBytes (body : List UInt8 → FileBody) (bytes : List UInt8) : File := ⟨bytes.length, body bytes⟩

/-- The first of some bytes: at most as many as asked for, and all for a negative number. -/
def firstBytes (count : Int) (bytes : List UInt8) : List UInt8 :=
  if count < 0 then bytes else bytes.take count.toNat

/-- Read to one byte beyond a limit, bytes are all there or still more than the limit. -/
theorem firstBytes_cases (limit : Int) (bytes : List UInt8) :
    firstBytes (limit + 1) bytes = bytes ∨
      limit < bytes.length ∧ limit < (firstBytes (limit + 1) bytes).length := by
  unfold firstBytes
  split
  · exact .inl rfl
  · rcases Nat.lt_or_ge (limit + 1).toNat bytes.length with longer | fits
    · rw [List.length_take]
      omega
    · exact .inl (List.take_of_length_le fits)

/-- Read to one byte beyond a limit, a file is whole or still longer than the limit. -/
theorem readAtMost_cases (limit : Int) (file : File) :
    file.readAtMost (limit + 1) = file ∨
      limit < file.size ∧ limit < (file.readAtMost (limit + 1)).size := by
  unfold readAtMost
  split
  · exact .inl rfl
  · next shortened =>
    dsimp only
    omega

end Workbook.File

namespace Service

open Calendar Workbook

section

variable {site : Site} {registry : Registry} {limit : Int} {now : DateTime}

/-- A file that is too long is answered without regard to what it holds. -/
theorem upload_of_long {file : File} (long : limit < file.size) :
    upload site (some file) registry limit now = .error (.tooLarge limit) := by
  rw [upload, uploadOpened, if_pos long]

/-- Files that are the same or both too long are answered alike. -/
theorem upload_congr {file other : File}
    (alike : other = file ∨ limit < file.size ∧ limit < other.size) :
    upload site (some other) registry limit now = upload site (some file) registry limit now := by
  rcases alike with rfl | ⟨long, otherLong⟩
  · rfl
  · rw [upload_of_long long, upload_of_long otherLong]

/-- A file that fails for what it holds is not refused as too long. -/
theorem status_refusalOfUpload (failure : ReadFailure) :
    (refusalOfUpload failure).status ≠ .payloadTooLarge := by
  cases failure <;> exact Status.noConfusion

end

/-- The answer that the route gives is that to the whole file. -/
theorem uploadFile_eq_ofAnswer (context : HttpContext) (file : File) :
    uploadFile context (some file) = .ofAnswer (fun review => .json review.toWire)
      (upload context.site (some file) context.registry context.uploadLimit context.now) := by
  rw [← upload_congr (file.readAtMost_cases context.uploadLimit)]
  rfl

/-- A file is answered as too long exactly when it is longer than the limit. -/
theorem status_uploadFile_iff (context : HttpContext) (file : File) :
    (uploadFile context (some file)).status = .payloadTooLarge ↔
      context.uploadLimit < file.size := by
  rw [uploadFile_eq_ofAnswer, upload, uploadOpened]
  split
  · next long => exact iff_of_true rfl long
  · next fits =>
    refine iff_of_false ?_ fits
    cases reviewOpened context.site file.opened context.registry context.now with
    | ok review => exact Status.noConfusion
    | error failure => exact status_refusalOfUpload failure

/-- Reading one byte beyond the limit, and no further, changes no answer. Whatever bytes hold and
whatever the limit, the bytes that are read are answered as all of them are, and so does the route
answer; the file is refused as too long exactly when all its bytes are more than the limit, and one
that is not, also one of exactly as many bytes, is reviewed with all of them. -/
theorem upload_of_first_bytes (body : List UInt8 → FileBody) (bytes : List UInt8)
    (context : HttpContext) :
    let answer (read : List UInt8) : Answer WorkbookReview :=
      upload context.site (some (.ofBytes body read)) context.registry context.uploadLimit
        context.now
    let response := uploadFile context (some (.ofBytes body bytes))
    let first := File.firstBytes (context.uploadLimit + 1) bytes
    answer first = answer bytes ∧
      response = .ofAnswer (fun review => .json review.toWire) (answer first) ∧
      (response.status = .payloadTooLarge ↔ context.uploadLimit < bytes.length) ∧
      answer first = if context.uploadLimit < bytes.length then
          .error (.tooLarge context.uploadLimit)
        else (reviewOpened context.site (File.ofBytes body bytes).opened context.registry
          context.now).mapError refusalOfUpload := by
  intro answer response first
  have same : answer first = answer bytes := by
    apply upload_congr
    rcases File.firstBytes_cases context.uploadLimit bytes with whole | longer
    · exact .inl (congrArg (File.ofBytes body) whole)
    · exact .inr longer
  refine ⟨same, ?_, status_uploadFile_iff context _, same⟩
  rw [same]
  exact uploadFile_eq_ofAnswer context _

end Service

end SheetIntake
