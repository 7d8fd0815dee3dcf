import SecureChat.Library.Files
import SecureChat.Proof.WebSocket.UploadAssembly

namespace SecureChat.WebSocket
open Library

def uploadsName : PathName := asciiBytes "uploads"

def clientName (clientId : UInt64) : PathName :=
  asciiBytes "client_" ++ asciiBytes (toString clientId.toNat)

/-- The text in front of the name of an uploaded file. -/
def uploadFront (clientId : UInt64) : List UInt8 :=
  asciiBytes "uploads/client_" ++ asciiBytes (toString clientId.toNat) ++ asciiBytes "/"

def downloadFront : List UInt8 := asciiBytes "uploads/"

/-- The file whose whole path was built lies inside of a directory. -/
def OpensInside (cwd inside : List PathName) (whole opened : List UInt8) : Prop :=
  opened = whole ∧ inside <+: resolve cwd opened

/-- What every accepted upload of a client and a file name puts into a free slot is inside of the directory
of the client. -/
def UploadsInside (cwd : List PathName) (clientId : UInt64) (filename : List UInt8) : Prop :=
  ∀ (manager : TransferManager) (request : UploadRequest), request.clientId = clientId →
    request.filename = filename →
    .returned 0 ∈ (handleFileUploadRequest manager request).2 →
    ∀ (slot : Nat) (context : TransferContext), manager.transfers[slot]? = some none →
      (handleFileUploadRequest manager request).1.transfers[slot]? = some (some context) →
      OpensInside cwd (cwd ++ [uploadsName, clientName clientId]) (uploadFront clientId ++ filename) context.filepath

/-- The same for the downloads that get a slot. -/
def DownloadsInside (cwd : List PathName) (filename : List UInt8) : Prop :=
  ∀ (manager : TransferManager) (request : DownloadRequest), request.filename = filename →
    downloadTakesSlot manager request = true →
    ∀ (slot : Nat) (context : TransferContext), manager.transfers[slot]? = some none →
      (handleFileDownloadRequest manager request).1.transfers[slot]? = some (some context) →
      OpensInside cwd (cwd ++ [uploadsName]) (downloadFront ++ filename) context.filepath

theorem uploadsName_plain : PlainName uploadsName := by
  constructor <;> decide

theorem digit_ne_slash (number : Nat) : slash ∉ asciiBytes (toString number) := by
  unfold asciiBytes
  rw [List.mem_map]
  rintro ⟨char, member, same⟩
  have digits : (toString number).toList = Nat.toDigits 10 number := by simp
  rw [digits] at member
  have digit := Nat.isDigit_of_mem_toDigits (by decide) (by decide) member
  rw [Char.isDigit, Bool.and_eq_true, decide_eq_true_iff, decide_eq_true_iff] at digit
  have value := congrArg UInt8.toNat same
  rw [UInt8.toNat_ofNat'] at value
  have slashed : slash.toNat = 47 := rfl
  have lower := UInt32.le_iff_toNat_le.mp digit.1
  have upper := UInt32.le_iff_toNat_le.mp digit.2
  have low : '0'.val.toNat = 48 := rfl
  have high : '9'.val.toNat = 57 := rfl
  have number : char.toNat = char.val.toNat := rfl
  omega

theorem clientName_plain (clientId : UInt64) : PlainName (clientName clientId) := by
  have first : (clientName clientId).head? = some 0x63 := rfl
  refine ⟨?_, ?_, ?_, ?_⟩
  · rw [clientName, List.mem_append, not_or]
    exact ⟨by decide, digit_ne_slash _⟩
  all_goals
    intro same
    rw [same] at first
    exact absurd first (by decide)

/-- The front of an upload leads to the directory of the client. -/
theorem resolve_upload (cwd : List PathName) (clientId : UInt64) (filename : List UInt8) :
    resolve cwd (uploadFront clientId ++ filename) =
      (Route.of filename).goFrom (cwd ++ [uploadsName, clientName clientId]) := by
  have front : uploadFront clientId ++ filename =
      uploadsName ++ slash :: (clientName clientId ++ slash :: filename) := by
    simp [uploadFront, uploadsName, clientName, asciiBytes, slash]
  rw [front, resolve_name uploadsName_plain, foldl_walk_names (clientName_plain clientId), List.append_assoc,
    Route.foldl_walk_eq]
  rfl

theorem resolve_download (cwd : List PathName) (filename : List UInt8) :
    resolve cwd (downloadFront ++ filename) = (Route.of filename).goFrom (cwd ++ [uploadsName]) := by
  have front : downloadFront ++ filename = uploadsName ++ slash :: filename := by
    simp [downloadFront, uploadsName, asciiBytes, slash]
  rw [front, resolve_name uploadsName_plain, Route.foldl_walk_eq]

/-- A path that is cut to the buffer stays inside exactly when it fits and comes back as far as it climbs. -/
theorem opensInside_cut_iff {cwd inside : List PathName} {front filename : List UInt8}
    (leads : resolve cwd (front ++ filename) = (Route.of filename).goFrom inside) :
    OpensInside cwd inside (front ++ filename) (cutText 512 (front ++ filename)) ↔
      front.length + filename.length < 512 ∧ (Route.of filename).ComesBack inside := by
  have fits : cutText 512 (front ++ filename) = front ++ filename ↔ front.length + filename.length < 512 := by
    constructor
    · intro same
      have size := congrArg List.length same
      rw [cutText, List.length_take, List.length_append] at size
      omega
    · intro short
      refine List.take_of_length_le ?_
      rw [List.length_append]
      omega
  unfold OpensInside
  rw [fits, ← Route.inside_iff, ← leads]
  refine and_congr_right fun short => ?_
  rw [fits.mpr short]

section Requests

variable (cwd : List PathName) (clientId : UInt64) (filename : List UInt8)

/-- An upload that a manager with a free slot accepts. -/
def openUpload : UploadRequest := ⟨clientId, filename, 1, false, 1, Vector.replicate 32 0, true, true⟩

def openDownload : DownloadRequest := ⟨clientId, filename, false, Vector.replicate 32 0, true, true, true⟩

/-- A manager with one slot, over a file system that has every file. -/
def oneSlot : TransferManager := fileTransferManagerInit 1 fun _ => some []

theorem openUpload_accepted :
    .returned 0 ∈ (handleFileUploadRequest oneSlot (openUpload clientId filename)).2 ∧
      (handleFileUploadRequest oneSlot (openUpload clientId filename)).1.transfers =
        [some (uploadContext oneSlot (openUpload clientId filename))] := by
  refine ⟨?_, rfl⟩
  exact List.mem_append_right _ (List.mem_singleton_self _)

theorem openDownload_accepted :
    downloadTakesSlot oneSlot (openDownload clientId filename) = true ∧
      (handleFileDownloadRequest oneSlot (openDownload clientId filename)).1.transfers =
        [some (downloadContext oneSlot (openDownload clientId filename) 0)] :=
  ⟨rfl, rfl⟩

/-- The new context of a slot that was free. -/
theorem new_context {transfers : List (Option TransferContext)} {taken slot : Nat} {new context : TransferContext}
    (free : transfers[slot]? = some none) (found : (transfers.set taken (some new))[slot]? = some (some context)) :
    context = new := by
  rw [List.getElem?_set] at found
  split_ifs at found with same inside
  · simpa using found.symm
  · rw [free] at found
    simp at found

theorem uploadsInside_iff :
    UploadsInside cwd clientId filename ↔
      OpensInside cwd (cwd ++ [uploadsName, clientName clientId]) (uploadFront clientId ++ filename)
        (uploadPath clientId filename) := by
  constructor
  · intro inside
    obtain ⟨accepted, table⟩ := openUpload_accepted clientId filename
    refine inside oneSlot (openUpload clientId filename) rfl rfl accepted 0
      (uploadContext oneSlot (openUpload clientId filename)) rfl ?_
    rw [table]
    rfl
  · rintro opens manager request rfl rfl accepted slot context free found
    obtain ⟨-, -, taken, -, result⟩ := handleFileUploadRequest_accepted manager request accepted
    rw [result] at found
    rw [new_context free found]
    exact opens

theorem downloadsInside_iff :
    DownloadsInside cwd filename ↔
      OpensInside cwd (cwd ++ [uploadsName]) (downloadFront ++ filename) (downloadPath filename) := by
  constructor
  · intro inside
    obtain ⟨accepted, table⟩ := openDownload_accepted 0 filename
    refine inside oneSlot (openDownload 0 filename) rfl accepted 0
      (downloadContext oneSlot (openDownload 0 filename) 0) rfl ?_
    rw [table]
    rfl
  · rintro opens manager request rfl accepted slot context free found
    obtain ⟨taken, fileSize, put⟩ := handleFileDownloadRequest_taken manager request accepted
    rw [put.transfers] at found
    rw [new_context free found]
    exact opens

/-- The files of a client stay in its directory, and those of a download in the directory of the uploads,
exactly when the path fits into the buffer and the file name comes back down over every directory
that it climbs over. -/
theorem filePaths_iff :
    (UploadsInside cwd clientId filename ↔
      (uploadFront clientId).length + filename.length < 512 ∧
        (Route.of filename).ComesBack (cwd ++ [uploadsName, clientName clientId])) ∧
    (DownloadsInside cwd filename ↔
      downloadFront.length + filename.length < 512 ∧ (Route.of filename).ComesBack (cwd ++ [uploadsName])) := by
  constructor
  · rw [uploadsInside_iff]
    exact opensInside_cut_iff (resolve_upload cwd clientId filename)
  · rw [downloadsInside_iff]
    exact opensInside_cut_iff (resolve_download cwd filename)

end Requests

/-- A name with a parent directory is opened outside, by an upload and by a download. -/
theorem parentName_escapes :
    .returned 0 ∈ (handleFileUploadRequest oneSlot (openUpload 7 (asciiBytes "../client_8/notes"))).2 ∧
      ((handleFileUploadRequest oneSlot (openUpload 7 (asciiBytes "../client_8/notes"))).1.transfers.map
        (Option.map fun context => resolve [asciiBytes "srv"] context.filepath)) =
          [some [asciiBytes "srv", uploadsName, clientName 8, asciiBytes "notes"]] ∧
      ((handleFileDownloadRequest oneSlot (openDownload 7 (asciiBytes "../server.key"))).1.transfers.map
        (Option.map fun context => resolve [asciiBytes "srv"] context.filepath)) =
          [some [asciiBytes "srv", asciiBytes "server.key"]] := by
  decide +kernel

end SecureChat.WebSocket
