import SecureChat.Construction.Web.FileTransfer

namespace SecureChat.Web
open Library Library.JsNumber

/-- The struct on the server sees what the upload has sent. -/
def StructYields (upload : FileUpload) (chunkIndex : Nat) (body : List UInt8) : Prop :=
  ∃ read, fileTransferChunk body = some read ∧ (read.transferId : Int) = upload.transferId ∧
    read.chunkIndex = chunkIndex ∧ read.totalChunks = upload.totalChunks ∧ read.data = upload.chunk chunkIndex

/-- A download that receives the sent chunk. -/
def FileDownload.store (download : FileDownload) (chunkIndex totalChunks : Nat) (chunk : List UInt8) :
    FileDownload :=
  { download with
    chunks := Function.update download.chunks chunkIndex (some chunk)
    receivedChunks := insert chunkIndex download.receivedChunks
    bytesTransferred := download.bytesTransferred + chunk.length
    totalChunks := if download.totalChunks = 0 then totalChunks else download.totalChunks }

/-- Every manager with such a download stores what the upload has sent. -/
def DownloadYields (upload : FileUpload) (chunkIndex : Nat) (body : List UInt8) : Prop :=
  ∀ (active : ActiveDownloads) download, active upload.transferId = some download →
    FileTransferManager.handleDownloadChunk active body =
      some (Function.update active upload.transferId
        (some (download.store chunkIndex upload.totalChunks (upload.chunk chunkIndex))))

/-- The upload builds a body that both readers understand. -/
def ChunkAgrees (sha256 : List UInt8 → List UInt8) (upload : FileUpload) (chunkIndex : Nat) : Prop :=
  ∃ body, upload.uploadChunk sha256 chunkIndex = some body ∧ StructYields upload chunkIndex body ∧
    DownloadYields upload chunkIndex body

/-- The value that is read depends on this byte of the message. -/
def Occupies (read : List UInt8 → Option Nat) (position : Nat) : Prop :=
  ∃ data byte, position < data.length ∧ read (data.set position byte) ≠ read data

/-- No byte of a response belongs to two of the three fields. -/
def ResponseDisjoint : Prop :=
  [FileTransferManager.readStatus, readFileSize, readTotalChunks].Pairwise fun first second =>
    ∀ position, ¬ (Occupies first position ∧ Occupies second position)

/-- The chunk messages and the responses are read as they were meant. -/
def OneChunkFormat (sha256 : List UInt8 → List UInt8) (upload : FileUpload) (chunkIndex : Nat) : Prop :=
  ChunkAgrees sha256 upload chunkIndex ∧ ResponseDisjoint

/-- The numbers fit their fields, and the chunk repeats the four bytes of its own length. -/
structure SelfDescribing (upload : FileUpload) (chunkIndex : Nat) : Prop where
  inside : chunkIndex * chunkSizeLimit ≤ upload.file.length
  nonneg : 0 ≤ upload.transferId
  narrow : upload.transferId < 2 ^ 64
  index : chunkIndex < 2 ^ 32
  total : upload.totalChunks < 2 ^ 32
  repeated : (uintBytes 4 (upload.chunk chunkIndex).length ++ upload.chunk chunkIndex).take
    (upload.chunk chunkIndex).length = upload.chunk chunkIndex

/-- The fields in front of the chunk. -/
def chunkFields (upload : FileUpload) (chunkIndex : Nat) : List (List UInt8) :=
  [uintBytes 8 upload.transferId, uintBytes 4 chunkIndex, uintBytes 4 (upload.chunk chunkIndex).length,
    uintBytes 4 upload.totalChunks, uintBytes 4 (upload.chunk chunkIndex).length]

theorem chunkFields_length (upload : FileUpload) (chunkIndex : Nat) :
    (chunkFields upload chunkIndex).flatten.length = 24 := by
  simp [chunkFields]

/-- A chunk is never longer than the limit. -/
theorem FileUpload.chunk_length (upload : FileUpload) (chunkIndex : Nat) :
    (upload.chunk chunkIndex).length ≤ chunkSizeLimit := by
  simp only [chunk, sliceBytes, List.length_take]
  omega

/-- The body is made of the five fields, the chunk and 64 bytes for the checksum. -/
theorem FileUpload.uploadChunk_body (sha256 : List UInt8 → List UInt8) (upload : FileUpload) (chunkIndex : Nat)
    (inside : chunkIndex * chunkSizeLimit ≤ upload.file.length) :
    ∃ checksum, upload.uploadChunk sha256 chunkIndex =
      some ((chunkFields upload chunkIndex).flatten ++ upload.chunk chunkIndex ++ checksum) := by
  have fields := chunkFields_length upload chunkIndex
  have chain : upload.uploadChunk sha256 chunkIndex =
      writeFields 0 (chunkFields upload chunkIndex ++ [upload.chunk chunkIndex] ++
        [(calculateChecksum sha256 (upload.chunk chunkIndex)).take 64])
        (List.replicate (88 + (upload.chunk chunkIndex).length) 0) := by
    have order : 24 + (upload.chunk chunkIndex).length + 64 = 88 + (upload.chunk chunkIndex).length := by omega
    rw [uploadChunk, if_neg (by omega)]
    simp only [chunkFields, List.cons_append, List.nil_append, writeFields, setUint, uintBytes_length,
      Option.bind_eq_bind, Option.bind_fun_some, Nat.zero_add, Nat.reduceAdd, order]
  have long : (chunkFields upload chunkIndex ++ [upload.chunk chunkIndex] ++
      [(calculateChecksum sha256 (upload.chunk chunkIndex)).take 64]).flatten.length ≤
      88 + (upload.chunk chunkIndex).length := by
    simp only [List.flatten_append, List.flatten_singleton, List.length_append, List.length_take, fields]
    omega
  rw [chain, writeFields_zero _ _ long, List.flatten_append, List.flatten_append, List.flatten_singleton,
    List.flatten_singleton, List.append_assoc]
  exact ⟨_, rfl⟩

section Readers

variable (upload : FileUpload) (chunkIndex : Nat) (checksum : List UInt8)

/-- The length of a chunk is read back as it is. -/
theorem chunk_size_read : bigEndianValue (uintBytes 4 (upload.chunk chunkIndex).length) =
    (upload.chunk chunkIndex).length := by
  have short := upload.chunk_length chunkIndex
  have small : (upload.chunk chunkIndex).length < 256 ^ 4 := by
    unfold chunkSizeLimit at short
    omega
  rw [uintBytes_of_fits 4 _ small, bigEndianValue_bigEndian 4 _ small]

/-- The struct reads the numbers of the fields and all of the chunk. -/
theorem fileTransferChunk_body :
    fileTransferChunk ((chunkFields upload chunkIndex).flatten ++ upload.chunk chunkIndex ++ checksum) =
      some ⟨bigEndianValue (uintBytes 8 upload.transferId), bigEndianValue (uintBytes 4 chunkIndex),
        (upload.chunk chunkIndex).length, bigEndianValue (uintBytes 4 upload.totalChunks),
        (upload.chunk chunkIndex).length, upload.chunk chunkIndex⟩ := by
  have fields := chunkFields_length upload chunkIndex
  rw [List.append_assoc, fileTransferChunk, getUint_flatten _ _ 0 8 0 _ rfl rfl (uintBytes_length _ _),
    getUint_flatten _ _ 1 4 8 _ rfl (by simp [chunkFields]) (uintBytes_length _ _),
    getUint_flatten _ _ 2 4 12 _ rfl (by simp [chunkFields]) (uintBytes_length _ _),
    getUint_flatten _ _ 3 4 16 _ rfl (by simp [chunkFields]) (uintBytes_length _ _),
    getUint_flatten _ _ 4 4 20 _ rfl (by simp [chunkFields]) (uintBytes_length _ _)]
  simp only [Option.bind_eq_bind, Option.bind_some]
  rw [chunk_size_read, ← List.append_assoc, sliceBytes_field _ _ _ 24 _ fields rfl]

/-- The download takes the bytes that start four bytes in front of the chunk. -/
theorem handleDownloadChunk_body (active : ActiveDownloads) (download : FileDownload)
    (found : active (bigEndianValue (uintBytes 8 upload.transferId)) = some download) :
    FileTransferManager.handleDownloadChunk active
        ((chunkFields upload chunkIndex).flatten ++ upload.chunk chunkIndex ++ checksum) =
      some (Function.update active (bigEndianValue (uintBytes 8 upload.transferId))
        (some { download with
          chunks := Function.update download.chunks (bigEndianValue (uintBytes 4 chunkIndex))
            (some ((uintBytes 4 (upload.chunk chunkIndex).length ++ upload.chunk chunkIndex).take
              (upload.chunk chunkIndex).length))
          receivedChunks := insert (bigEndianValue (uintBytes 4 chunkIndex)) download.receivedChunks
          bytesTransferred := download.bytesTransferred + (upload.chunk chunkIndex).length
          totalChunks := if download.totalChunks = 0 then bigEndianValue (uintBytes 4 upload.totalChunks)
            else download.totalChunks })) := by
  have taken : sliceBytes 20 (20 + (upload.chunk chunkIndex).length)
      ((chunkFields upload chunkIndex).flatten ++ (upload.chunk chunkIndex ++ checksum)) =
      (uintBytes 4 (upload.chunk chunkIndex).length ++ upload.chunk chunkIndex).take
        (upload.chunk chunkIndex).length := by
    have front : (((chunkFields upload chunkIndex).take 4).flatten).length = 20 := by simp [chunkFields]
    have shape : (chunkFields upload chunkIndex).flatten ++ (upload.chunk chunkIndex ++ checksum) =
        ((chunkFields upload chunkIndex).take 4).flatten ++
          ((uintBytes 4 (upload.chunk chunkIndex).length ++ upload.chunk chunkIndex) ++ checksum) := by
      simp [chunkFields]
    rw [shape, sliceBytes, List.drop_left' front, Nat.add_sub_cancel_left, List.take_append_of_le_length]
    rw [List.length_append]
    omega
  rw [List.append_assoc, FileTransferManager.handleDownloadChunk,
    getUint_flatten _ _ 0 8 0 _ rfl rfl (uintBytes_length _ _),
    getUint_flatten _ _ 1 4 8 _ rfl (by simp [chunkFields]) (uintBytes_length _ _)]
  simp only [Option.bind_eq_bind, Option.bind_some]
  rw [found]
  simp only [FileDownload.handleDownloadChunk]
  rw [getUint_flatten _ _ 2 4 12 _ rfl (by simp [chunkFields]) (uintBytes_length _ _),
    getUint_flatten _ _ 3 4 16 _ rfl (by simp [chunkFields]) (uintBytes_length _ _)]
  simp only [Option.bind_eq_bind, Option.bind_some]
  rw [chunk_size_read, taken]

end Readers

/-- A field holds its number exactly when the number fits. -/
theorem field_holds_iff (width : Nat) (value : Int) :
    (bigEndianValue (uintBytes width value) : Int) = value ↔ 0 ≤ value ∧ value < 256 ^ width := by
  have positive : (0 : Int) < 256 ^ width := Int.pow_pos (by decide)
  rw [bigEndianValue_uintBytes_mod]
  constructor
  · intro same
    rw [← same]
    exact ⟨Int.emod_nonneg _ (Int.ne_of_gt positive), Int.emod_lt_of_pos _ positive⟩
  · rintro ⟨nonneg, small⟩
    exact Int.emod_eq_of_lt nonneg small

theorem count_field_holds_iff (value : Nat) :
    bigEndianValue (uintBytes 4 value) = value ↔ value < 2 ^ 32 := by
  rw [← Int.natCast_inj, field_holds_iff]
  omega

/-- Both readers understand a chunk message exactly when the numbers fit and the chunk describes itself. -/
theorem chunkAgrees_iff (sha256 : List UInt8 → List UInt8) (upload : FileUpload) (chunkIndex : Nat) :
    ChunkAgrees sha256 upload chunkIndex ↔ SelfDescribing upload chunkIndex := by
  constructor
  · rintro ⟨body, sent, ⟨read, parsed, sameId, sameIndex, sameTotal, -⟩, stored⟩
    have inside : chunkIndex * chunkSizeLimit ≤ upload.file.length := by
      by_contra behind
      rw [FileUpload.uploadChunk, if_pos (by omega)] at sent
      exact nomatch sent
    obtain ⟨checksum, built⟩ := upload.uploadChunk_body sha256 chunkIndex inside
    obtain rfl := Option.some.inj (sent.symm.trans built)
    rw [fileTransferChunk_body] at parsed
    obtain rfl := Option.some.inj parsed
    dsimp only at sameId sameIndex sameTotal
    have idFits := (field_holds_iff 8 upload.transferId).mp sameId
    have found := handleDownloadChunk_body upload chunkIndex checksum
      (fun transferId => some (FileDownload.new transferId)) _ rfl
    rw [stored (fun transferId => some (FileDownload.new transferId)) _ rfl, sameId, sameIndex] at found
    have same := congrFun (Option.some.inj found) upload.transferId
    rw [Function.update_self, Function.update_self] at same
    have chunks := congrFun (congrArg FileDownload.chunks (Option.some.inj same)) chunkIndex
    simp only [FileDownload.store, Function.update_self] at chunks
    exact ⟨inside, idFits.1, idFits.2, (count_field_holds_iff _).mp sameIndex,
      (count_field_holds_iff _).mp sameTotal, (Option.some.inj chunks).symm⟩
  · rintro ⟨inside, nonneg, narrow, index, total, repeated⟩
    obtain ⟨checksum, built⟩ := upload.uploadChunk_body sha256 chunkIndex inside
    have sameId := (field_holds_iff 8 upload.transferId).mpr ⟨nonneg, narrow⟩
    have sameIndex := (count_field_holds_iff chunkIndex).mpr index
    have sameTotal := (count_field_holds_iff upload.totalChunks).mpr total
    refine ⟨_, built, ⟨_, fileTransferChunk_body upload chunkIndex checksum, sameId, sameIndex, sameTotal, rfl⟩,
      fun active download waiting => ?_⟩
    rw [← sameId] at waiting
    rw [handleDownloadChunk_body upload chunkIndex checksum active download waiting, sameId, sameIndex, sameTotal,
      repeated]
    rfl

/-- The status and the file size share their first bytes. -/
theorem not_responseDisjoint : ¬ ResponseDisjoint := by
  intro disjoint
  have apart := (List.pairwise_cons.mp disjoint).1 readFileSize List.mem_cons_self 8
  have status : Occupies FileTransferManager.readStatus 8 := ⟨List.replicate 20 0, 1, by decide, by decide⟩
  have size : Occupies readFileSize 8 := ⟨List.replicate 20 0, 1, by decide, by decide⟩
  exact apart ⟨status, size⟩

/-- No chunk has one format for all readers, since the response has none.
The chunk messages agree exactly when the chunk describes itself. -/
theorem oneChunkFormat_never (sha256 : List UInt8 → List UInt8) (upload : FileUpload) (chunkIndex : Nat) :
    ¬ OneChunkFormat sha256 upload chunkIndex ∧
      (ChunkAgrees sha256 upload chunkIndex ↔ SelfDescribing upload chunkIndex) :=
  ⟨fun format => not_responseDisjoint format.2, chunkAgrees_iff sha256 upload chunkIndex⟩

/-- A file of one letter, which the download reads as a zero byte, and the overlap in the responses. -/
theorem oneChunkFormat_letter_fails :
    ¬ ChunkAgrees (fun _ => []) (FileUpload.new 5 [0x41]) 0 ∧
      ¬ OneChunkFormat (fun _ => []) (FileUpload.new 5 [0x41]) 0 := by
  have letter : ¬ ChunkAgrees (fun _ => []) (FileUpload.new 5 [0x41]) 0 := by
    rw [chunkAgrees_iff]
    exact fun describing => absurd describing.repeated (by decide)
  exact ⟨letter, fun format => letter format.1⟩

/-- The identifiers that the client generates today have more bits than their field. -/
theorem generateTransferId_wide (now random : Nat) (today : 2 ^ 32 ≤ now) :
    2 ^ 64 ≤ generateTransferId now random := by
  have shifted : 2 ^ 64 ≤ now <<< 32 := by
    rw [Nat.shiftLeft_eq]
    omega
  exact shifted.trans Nat.left_le_or

end SecureChat.Web
