import GmStack.Tls.Schedules

/-! Neither way to write looks at the length of the plaintext before it is sealed, and the reader
has a limit. -/

namespace GmStack.Tls

open Foundation Crypto List RecordStream

variable {F P : Type} [CommRing F] [AddCommGroup P] [Module F P]

section Library

variable (lib : TlsLibrary F P)

/-- Calls of `read_application_data` return the contents, one after the other, and take all of the
octets. -/
inductive ReadsAll : RecordStream → Bytes → List Bytes → Prop
  | nil {reader : RecordStream} : ReadsAll reader [] []
  | cons {reader next : RecordStream} {rounds : ℕ} {script : Script} {content rest : Bytes}
    {contents : List Bytes}
      (hread : Talks (reader.readApplicationData lib rounds) script (content, next))
      (hrest : ReadsAll next rest contents) : ReadsAll reader (inbound script ++ rest)
        (content :: contents)

/-- What the calls return of the octets is the plaintext. -/
def ReadAs (reader : RecordStream) (bytes plaintext : Bytes) : Prop :=
  ∃ contents, ReadsAll lib reader bytes contents ∧ contents.flatten = plaintext

variable {lib} {reader next : RecordStream} {bytes record plaintext : Bytes} {contents : List Bytes}

lemma ReadsAll.length_le (hreads : ReadsAll lib reader bytes contents) :
    contents.flatten.length + 22 * contents.length ≤ bytes.length ∧
      ∀ content ∈ contents, content.length ≤ Message.maxPlaintext := by
  induction hreads with
  | nil => simp
  | @cons reader next rounds script content rest contents hread _ ih =>
    obtain ⟨hcount, hall⟩ := ih
    obtain ⟨hmax, hlen⟩ := (concludes_readApplicationData_any lib _ hread.concludes).2 _ _ rfl
    rw [flatten_cons, length_append, length_append, length_cons]
    exact ⟨by omega, forall_mem_cons.mpr ⟨hmax, hall⟩⟩

lemma readAs_data_iff (hseals : reader.readHalf.Seals lib (.data plaintext) record)
    (hsec : reader.readHalf.HasSecret) : ReadAs lib reader record plaintext ↔ plaintext.length ≤
    Message.maxPlaintext := by
  constructor
  · rintro ⟨contents, hreads, rfl⟩
    obtain ⟨hcount, hall⟩ := hreads.length_le
    obtain ⟨version, body, rfl, hlen, -⟩ := hseals
    have hinner : (Message.data contents.flatten).inner.length = contents.flatten.length + 1 :=
      length_append
    rw [length_append, length_recordHeader, hlen, hinner] at hcount
    match contents with
    | [] => exact Nat.zero_le _
    | [content] =>
      rw [flatten_singleton]
      exact hall content mem_cons_self
    | _ :: _ :: _ =>
      simp only [length_cons] at hcount
      omega
  · intro hsize
    have hall : ∀ content ∈ Message.contents [.data plaintext], content.length ≤
      Message.maxPlaintext :=
      forall_mem_singleton.mpr hsize
    obtain ⟨next, htalks, -⟩ :=
      exists_talks_readRecord lib hseals (Message.fits_of_contents hall (mem_singleton_self _)) hsec
    have hread : Talks (reader.readApplicationData lib 1) (receiving record ++ [])
      (plaintext, next) :=
      .bind htalks (.pure _)
    have hreads := ReadsAll.cons hread .nil
    rw [append_nil, append_nil, inbound_receiving] at hreads
    exact ⟨[plaintext], hreads, flatten_singleton⟩

lemma readAs_skip_iff (htalks : Talks (reader.readRecord lib) (receiving record) (none, next))
    (hrecord : record ≠ [])
    (hbytes : bytes ≠ []) : ReadAs lib reader (record ++ bytes) plaintext ↔
    ReadAs lib next bytes plaintext := by
  constructor
  · rintro ⟨contents, hreads, hflat⟩
    generalize hall : record ++ bytes = all at hreads
    cases hreads with
    | nil => exact absurd (append_eq_nil_iff.mp hall).1 hrecord
    | @cons _ final rounds script content rest contents hread hrest =>
      cases rounds with
      | zero => cases (concludes_done_iff.mp hread.concludes).2
      | succ rounds =>
        obtain ⟨taken, before, after, rfl, hfirst, hsnd⟩ := talks_bind_iff.mp hread
        rw [inbound_append, append_assoc] at hall
        obtain ⟨rfl, htaken⟩ := hfirst.concludes.unique htalks.concludes
          (by rw [inbound_receiving, hall])
        cases htaken
        rw [inbound_receiving] at hall
        obtain rfl := append_cancel_left hall
        exact ⟨_, .cons hsnd hrest, hflat⟩
  · rintro ⟨contents, hreads, hflat⟩
    cases hreads with
    | nil => exact absurd rfl hbytes
    | @cons _ final rounds script content rest contents hread hrest =>
      have hboth : Talks (reader.readApplicationData lib (rounds + 1)) (receiving record ++ script)
        (content, final) :=
        .bind htalks hread
      have hall := ReadsAll.cons hboth hrest
      rw [inbound_append, inbound_receiving, append_assoc] at hall
      exact ⟨_, hall, hflat⟩

lemma readAs_inFlight_iff {updates : List Message} {final : Half}
    (hupdates : Message.contents updates = [])
    (hflight : Half.InFlight lib reader.readHalf (updates ++ [.data plaintext]) bytes final)
    (hsec : reader.readHalf.HasSecret) : ReadAs lib reader bytes plaintext ↔ plaintext.length ≤
    Message.maxPlaintext := by
  induction updates generalizing reader bytes with
  | nil =>
    cases hflight with
    | cons hseals hrest =>
      cases hrest
      rw [append_nil]
      exact readAs_data_iff hseals hsec
  | cons update updates ih =>
    have hfits : update.Fits := by
      refine Message.fits_of_contents (fun content hmem ↦ ?_) (mem_cons_self (l := updates))
      rw [hupdates] at hmem
      cases hmem
    cases hflight with
    | @cons _ _ _ _ record rest hseals hrest =>
      obtain ⟨next, htalks, hhalf, -⟩ := exists_talks_readRecord lib hseals hfits hsec
      cases update with
      | data content => cases hupdates
      | update request =>
        have hrecord : record ≠ [] := by
          obtain ⟨version, body, rfl, -⟩ := hseals
          exact cons_ne_nil _ _
        have hbytes : rest ≠ [] := by
          rintro rfl
          exact absurd hrest.eq_of_nil.1 (append_ne_nil_of_right_ne_nil _ (cons_ne_nil _ _))
        rw [← hhalf] at hrest
        have hnextSec : next.readHalf.HasSecret := hhalf ▸ hsec.advance lib _
        exact (readAs_skip_iff htalks hrecord hbytes).trans (ih hupdates hrest hnextSec)

/-- Which plaintexts are delivered or refused by the two ways to write. -/
theorem deliveredOrRefused_iff {writer reader : RecordStream} (plaintext : Bytes)
    (hwriter : writer.CanWrite)
    (hreader : reader.readHalf = writer.writeHalf) :
    ((∃ script result, Concludes (writer.writeApplicationData lib plaintext) script result) ∧
      ∀ script result, Concludes (writer.writeApplicationData lib plaintext) script result →
        (((∃ error, result = .error error) ∧ outbound script = [] ∨
            (∃ next, result = .ok next) ∧ ReadAs lib reader (outbound script) plaintext) ↔
          plaintext.length ≤ Message.maxPlaintext)) ∧
      ∀ trace final outcome, Polls (writer.pollWrite lib plaintext) trace final outcome →
      PromptWrite trace →
        (((∃ text, outcome = .failed text) ∧ accepted trace = [] ∨
            ∃ count, outcome = .ready count ∧ ReadAs lib reader (accepted trace)
            (plaintext.take count)) ↔
          plaintext.length ≤ Message.maxPlaintext ∨ 65535 - 1024 <
          (plaintext.length + 17) % 2 ^ 16) := by
  have hsec : reader.readHalf.HasSecret := hreader ▸ hwriter.secret
  refine ⟨?_, fun trace final outcome hpolls hprompt ↦ ?_⟩
  · obtain ⟨updates, next, hupdates, bytes, htalks, hflight, -⟩ :=
      exists_sends_writeApplicationData lib hwriter plaintext
    rw [← hreader] at hflight
    refine ⟨⟨_, _, htalks.concludes⟩, fun script result hwrite ↦ ?_⟩
    have hin : inbound script ++ [] = inbound (sending bytes) ++ inbound script := by simp
    obtain ⟨rfl, rfl⟩ := hwrite.unique htalks.concludes hin
    rw [outbound_sending, ← readAs_inFlight_iff hupdates hflight hsec]
    simp
  · have hseq : writer.writeSeq < 2 ^ 64 - 1 := lt_of_le_of_lt hwriter.seq (by decide)
    rcases polls_pollWrite_prompt hwriter.key hseq hprompt hpolls with
      ⟨hlarge, rfl, rfl⟩ | ⟨hfits, rfl, hcarry, -⟩
    · exact iff_of_true (.inl ⟨⟨_, rfl⟩, rfl⟩) (.inr hlarge)
    · rw [← hreader] at hcarry
      rw [or_iff_left (not_lt.mpr hfits), ← readAs_data_iff hcarry hsec]
      simp

end Library

lemma canWrite_miniWriter : miniWriter.CanWrite where
  numbered := wellNumbered_withVersion _ _
  key := by decide
  secret := ⟨_, rfl, by decide⟩
  seq := by decide

/-- One octet is delivered. -/
theorem octet_delivered : ∃ script result, Concludes (miniWriter.writeApplicationData miniTls [7])
    script result ∧
    ((∃ error, result = .error error) ∧ outbound script = [] ∨
      (∃ next, result = .ok next) ∧ ReadAs miniTls miniReader.stream (outbound script) [7]) := by
  obtain ⟨⟨⟨script, result, hwrite⟩, hall⟩, -⟩ :=
    @deliveredOrRefused_iff _ _ _ _ _ miniTls miniWriter miniReader.stream [7]
      canWrite_miniWriter rfl
  exact ⟨script, result, hwrite, (hall script result hwrite).mpr (by decide)⟩

/-- A write of 24560 octets succeeds, and no reads of what it has written return them. -/
theorem long_plaintext_undelivered : ∃ script next,
    Concludes (miniWriter.writeApplicationData miniTls (replicate 24560 0)) script (.ok next) ∧
      ¬ ReadAs miniTls miniReader.stream (outbound script) (replicate 24560 0) := by
  obtain ⟨updates, next, hupdates, bytes, htalks, hflight, -⟩ :=
    exists_sends_writeApplicationData miniTls canWrite_miniWriter (replicate 24560 0)
  have hread : ReadAs miniTls miniReader.stream bytes (replicate 24560 0) ↔ _ :=
    readAs_inFlight_iff hupdates hflight canWrite_miniWriter.secret
  refine ⟨_, next, htalks.concludes, ?_⟩
  rw [outbound_sending, hread, length_replicate]
  decide

end GmStack.Tls
