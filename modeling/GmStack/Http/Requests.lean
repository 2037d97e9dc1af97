import GmStack.Http.Client
import Mathlib.Data.List.TakeWhile

/-! A client is faithful if, whenever it gets to reading the response, what it has written reads as
the request that was asked for. -/

namespace GmStack.Http

open Foundation List Option Nat Client

def ascii (text : String) : Bytes := encodeText text.toList

/-- A request as its recipient reads it. The value of a field is what stands after the colon. -/
structure HttpRequest where
  method : Bytes
  target : Bytes
  fields : List (Bytes × Bytes)
  body : Bytes

def readLine : Bytes → Option (Bytes × Bytes)
  | [] => none
  | octet :: rest =>
    if octet = 13 then (if rest.head? = some 10 then some ([], rest.tail) else none)
    else if octet = 10 then none
    else (readLine rest).map fun (line, after) ↦ (octet :: line, after)

def readRequestLine (line : Bytes) : Option (Bytes × Bytes) :=
  match line.splitOn 32 with
  | [method, target, version] => if version = ascii "HTTP/1.1" then some (method, target) else none
  | _ => none

def readField (line : Bytes) : Option (Bytes × Bytes) :=
  let name := line.takeWhile (· ≠ 58)
  if name = [] then none
  else
    match line.dropWhile (· ≠ 58) with
    | [] => none
    | _ :: value => some (name, value)

def readFields : ℕ → Bytes → Option (List (Bytes × Bytes) × Bytes)
  | 0, _ => none
  | fuel + 1, octets => do
    let (line, rest) ← readLine octets
    if line = [] then some ([], rest)
    else
      let field ← readField line
      let (fields, after) ← readFields fuel rest
      some (field :: fields, after)

def readNumber (octets : Bytes) : Option ℕ :=
  let digits := trim (lossyText octets)
  if digits ≠ [] ∧ digits.all Char.isDigit = true then some (Nat.ofDigitChars 10 digits 0) else none

def isContentLength (field : Bytes × Bytes) : Bool :=
  toLowercase (lossyText field.1) == "content-length".toList

def announcedLength (fields : List (Bytes × Bytes)) : Option ℕ :=
  match fields.find? isContentLength with
  | some (_, value) => readNumber value
  | none => some 0

def readHttpRequest (octets : Bytes) : Option HttpRequest := do
  let (line, rest) ← readLine octets
  let (method, target) ← readRequestLine line
  let (fields, body) ← readFields rest.length rest
  if announcedLength fields = some body.length then some ⟨method, target, fields, body⟩ else none

/-- No carriage return and no line feed. -/
def OneLine (octets : Bytes) : Prop := 13 ∉ octets ∧ 10 ∉ octets

instance (octets : Bytes) : Decidable (OneLine octets) := inferInstanceAs (Decidable (_ ∧ _))

variable {line : Bytes}

lemma readLine_append (hline : OneLine line) (rest : Bytes) : readLine (line ++ 13 :: 10 :: rest) =
    some (line, rest) := by
  induction line with
  | nil => rfl
  | cons octet line ih =>
    obtain ⟨hcr, hlf⟩ := hline
    rw [mem_cons, not_or] at hcr hlf
    rw [cons_append, readLine, if_neg (Ne.symm hcr.1), if_neg (Ne.symm hlf.1), ih ⟨hcr.2, hlf.2⟩]
    rfl

variable {octets rest : Bytes}

lemma readLine_eq_some (hread : readLine octets = some (line, rest)) : octets = line ++ 13 :: 10 ::
    rest ∧ OneLine line := by
  induction octets generalizing line with
  | nil => cases hread
  | cons octet octets ih =>
    rw [readLine] at hread
    split_ifs at hread with hcr hnext hlf
    · cases hread
      obtain ⟨after, rfl⟩ := head?_eq_some_iff.mp hnext
      exact ⟨by rw [hcr]; rfl, not_mem_nil, not_mem_nil⟩
    obtain ⟨⟨line', rest'⟩, hfound, heq⟩ := map_eq_some_iff.mp hread
    cases heq
    obtain ⟨rfl, hline⟩ := ih hfound
    refine ⟨rfl, ?_, ?_⟩
    · rw [mem_cons, not_or]
      exact ⟨Ne.symm hcr, hline.1⟩
    · rw [mem_cons, not_or]
      exact ⟨Ne.symm hlf, hline.2⟩

/-- The name of a field: not empty, and without a colon. -/
def IsFieldName (name : Bytes) : Prop := name ≠ [] ∧ 58 ∉ name

instance (name : Bytes) : Decidable (IsFieldName name) := inferInstanceAs (Decidable (_ ∧ _))

lemma readField_append {name : Bytes} (hname : IsFieldName name) (value : Bytes) :
    readField (name ++ 58 :: value) = some (name, value) := by
  have hall : ∀ octet ∈ name, (decide (octet ≠ 58)) = true := fun octet hoctet ↦
    decide_eq_true (ne_of_mem_of_not_mem hoctet hname.2)
  have htake : (name ++ 58 :: value).takeWhile (· ≠ 58) = name := by
    rw [takeWhile_append_of_pos hall]
    simp
  have hdrop : (name ++ 58 :: value).dropWhile (· ≠ 58) = 58 :: value := by
    rw [dropWhile_append_of_pos hall]
    simp
  simp only [readField, htake, hdrop, hname.1, if_false]

lemma readField_eq_some {name value : Bytes} (hread : readField line = some (name, value)) :
    line = name ++ 58 :: value ∧ IsFieldName name := by
  unfold readField at hread
  simp only at hread
  split_ifs at hread with hname
  split at hread
  · cases hread
  rename_i octet after hdrop
  cases hread
  have hoctet : octet = 58 := by
    have := head?_dropWhile_not (fun octet : UInt8 ↦ decide (octet ≠ 58)) line
    rw [hdrop] at this
    simpa using this
  refine ⟨?_, hname, ?_⟩
  · rw [hoctet] at hdrop
    rw [← hdrop, takeWhile_append_dropWhile]
  · intro hmem
    simpa using mem_takeWhile_imp hmem

/-! ### Rendering -/

def renderField (field : Bytes × Bytes) : Bytes := field.1 ++ 58 :: field.2 ++ [13, 10]

namespace HttpRequest

def head (request : HttpRequest) : Bytes :=
  request.method ++ 32 :: request.target ++ 32 :: ascii "HTTP/1.1" ++ [13, 10] ++
    request.fields.flatMap renderField ++ [13, 10]

/-- The request line and the fields of a request are well formed. -/
structure HeadWellFormed (request : HttpRequest) : Prop where
  method_line : OneLine request.method
  method_word : 32 ∉ request.method
  target_line : OneLine request.target
  target_word : 32 ∉ request.target
  names : ∀ field ∈ request.fields, IsFieldName field.1 ∧ OneLine field.1
  values : ∀ field ∈ request.fields, OneLine field.2

end HttpRequest

lemma oneLine_append {first second : Bytes} (hfirst : OneLine first) (hsnd : OneLine second) :
    OneLine (first ++ second) := by
  simp only [OneLine, mem_append, not_or] at *
  exact ⟨⟨hfirst.1, hsnd.1⟩, hfirst.2, hsnd.2⟩

lemma readFields_append (fields : List (Bytes × Bytes)) (rest : Bytes) (fuel : ℕ)
    (hfuel : fields.length < fuel)
    (hnames : ∀ field ∈ fields, IsFieldName field.1 ∧ OneLine field.1)
    (hvalues : ∀ field ∈ fields, OneLine field.2) :
    readFields fuel (fields.flatMap renderField ++ 13 :: 10 :: rest) = some (fields, rest) := by
  induction fields generalizing fuel with
  | nil =>
    obtain ⟨fuel, rfl⟩ := exists_eq_succ_of_ne_zero (ne_of_gt hfuel)
    rfl
  | cons field fields ih =>
    obtain ⟨fuel, rfl⟩ := exists_eq_succ_of_ne_zero (ne_of_gt (zero_lt_of_lt hfuel))
    obtain ⟨hname, hnameLine⟩ := hnames field mem_cons_self
    have hline : OneLine (field.1 ++ 58 :: field.2) :=
      oneLine_append hnameLine (oneLine_append (show OneLine [58] by decide)
        (hvalues field mem_cons_self))
    have hsplit : (field :: fields).flatMap renderField ++ 13 :: 10 :: rest =
        (field.1 ++ 58 :: field.2) ++ 13 :: 10 ::
        (fields.flatMap renderField ++ 13 :: 10 :: rest) := by
      simp [renderField]
    have hrest := ih fuel (lt_of_succ_lt_succ hfuel) (forall_mem_cons.mp hnames).2
      (forall_mem_cons.mp hvalues).2
    have hne : field.1 ++ 58 :: field.2 ≠ [] := by simp
    rw [hsplit, readFields, readLine_append hline]
    simp only [bind_eq_bind, bind_some, hne, if_false, readField_append hname, hrest]

lemma readFields_eq_some {fuel : ℕ} {fields : List (Bytes × Bytes)}
    (hread : readFields fuel octets = some (fields, rest)) :
    (∀ field ∈ fields, IsFieldName field.1 ∧ OneLine field.1) ∧ ∀ field ∈ fields,
    OneLine field.2 := by
  induction fuel generalizing octets fields with
  | zero => cases hread
  | succ fuel ih =>
    rw [readFields, bind_eq_bind, bind_eq_some_iff] at hread
    obtain ⟨⟨line, after⟩, hline, hread⟩ := hread
    by_cases hempty : line = []
    · simp only [hempty, if_true, some.injEq, Prod.mk.injEq] at hread
      rw [← hread.1]
      exact ⟨fun _ hmem ↦ absurd hmem not_mem_nil, fun _ hmem ↦ absurd hmem not_mem_nil⟩
    simp only [hempty, if_false, bind_eq_bind, bind_eq_some_iff] at hread
    obtain ⟨field, hfield, ⟨later, final⟩, hlater, hread⟩ := hread
    obtain ⟨rfl, rfl⟩ := hread
    obtain ⟨hnames, hvalues⟩ := ih hlater
    obtain ⟨hsplit, hname⟩ := readField_eq_some hfield
    obtain ⟨hcr, hlf⟩ := (readLine_eq_some hline).2
    simp only [hsplit, mem_append, mem_cons, not_or] at hcr hlf
    simp only [forall_mem_cons]
    exact ⟨⟨⟨hname, hcr.1, hlf.1⟩, hnames⟩, ⟨hcr.2.2, hlf.2.2⟩, hvalues⟩

variable {method target : Bytes}

lemma readRequestLine_append (hmethod : 32 ∉ method) (htarget : 32 ∉ target) :
    readRequestLine (method ++ 32 :: target ++ 32 :: ascii "HTTP/1.1") = some (method, target) := by
  have hvers : splitOn 32 (ascii "HTTP/1.1") = [ascii "HTTP/1.1"] := by decide
  rw [readRequestLine, append_assoc, cons_append, splitOn_append_cons_self_of_not_mem hmethod,
    splitOn_append_cons_self_of_not_mem htarget, hvers]
  simp only [if_true]

lemma not_mem_of_mem_splitOn {part : Bytes} {separator : UInt8}
    (hpart : part ∈ line.splitOn separator) :
    separator ∉ part ∧ part ⊆ line := by
  rw [splitOn_eq_splitOnP] at hpart
  induction line generalizing part with
  | nil =>
    rw [splitOnP_nil, mem_singleton] at hpart
    rw [hpart]
    exact ⟨not_mem_nil, List.Subset.refl _⟩
  | cons octet line ih =>
    rw [splitOnP_cons_eq_if_modifyHead] at hpart
    have hgrow {part : Bytes} (hpart : part ⊆ line) : part ⊆ octet :: line :=
      List.Subset.trans hpart (subset_cons_self octet line)
    by_cases hoctet : octet = separator
    · rw [if_pos (by simpa using hoctet), mem_cons] at hpart
      rcases hpart with rfl | hpart
      · exact ⟨not_mem_nil, nil_subset _⟩
      · exact (ih hpart).imp_right hgrow
    rw [if_neg (by simpa using hoctet)] at hpart
    obtain ⟨first, parts, hparts⟩ := exists_cons_of_ne_nil (splitOnP_ne_nil (· == separator) line)
    rw [hparts, modifyHead_cons, mem_cons] at hpart
    rcases hpart with rfl | hpart
    · obtain ⟨hnot, hsubset⟩ := ih (hparts ▸ mem_cons_self)
      refine ⟨?_, cons_subset_cons octet hsubset⟩
      rw [mem_cons, not_or]
      exact ⟨Ne.symm hoctet, hnot⟩
    · exact (ih (hparts ▸ mem_cons_of_mem first hpart)).imp_right hgrow

lemma readRequestLine_eq_some (hread : readRequestLine line = some (method, target)) :
    (32 ∉ method ∧ method ⊆ line) ∧ 32 ∉ target ∧ target ⊆ line := by
  unfold readRequestLine at hread
  split at hread
  · rename_i parts first second version hsplit
    split_ifs at hread
    cases hread
    exact ⟨not_mem_of_mem_splitOn (by rw [hsplit]; simp),
      not_mem_of_mem_splitOn (by rw [hsplit]; simp)⟩
  · cases hread

lemma length_le_flatMap_renderField (fields : List (Bytes × Bytes)) :
    fields.length ≤ (fields.flatMap renderField).length := by
  induction fields with
  | nil => exact le_refl 0
  | cons field fields ih =>
    rw [flatMap_cons, length_append, length_cons]
    simp only [renderField, length_append, length_cons]
    omega

namespace HttpRequest

variable {request : HttpRequest}

lemma readHttpRequest_head_append (hwf : request.HeadWellFormed) (body : Bytes) :
    readHttpRequest (request.head ++ body) =
      if announcedLength request.fields = some body.length then some { request with body :=
      body } else none := by
  have hline : OneLine (request.method ++ 32 :: request.target ++ 32 :: ascii "HTTP/1.1") := by
    refine oneLine_append (oneLine_append hwf.method_line ?_) (by decide)
    exact oneLine_append (show OneLine [32] by decide) hwf.target_line
  have hsplit : request.head ++ body = (request.method ++ 32 :: request.target ++ 32 ::
    ascii "HTTP/1.1") ++
      13 :: 10 :: (request.fields.flatMap renderField ++ 13 :: 10 :: body) := by
    simp [head]
  have hfuel : request.fields.length < (request.fields.flatMap renderField ++ 13 ::
      10 :: body).length := by
    have hle := length_le_flatMap_renderField request.fields
    simp only [length_append, length_cons]
    omega
  have hfields := readFields_append request.fields body _ hfuel hwf.names hwf.values
  rw [hsplit, readHttpRequest, readLine_append hline]
  simp only [bind_eq_bind, bind_some, readRequestLine_append hwf.method_word hwf.target_word,
    hfields]

lemma headWellFormed_of_readHttpRequest {octets : Bytes}
    (hread : readHttpRequest octets = some request) :
    request.HeadWellFormed := by
  unfold readHttpRequest at hread
  simp only [bind_eq_bind, bind_eq_some_iff] at hread
  obtain ⟨⟨line, rest⟩, hline, ⟨method, target⟩, hrequestLine, ⟨fields, body⟩, hfields, hread⟩ :=
    hread
  split_ifs at hread
  cases hread
  obtain ⟨hcr, hlf⟩ := (readLine_eq_some hline).2
  obtain ⟨⟨hmethod, hmethodLine⟩, htarget, htargetLine⟩ := readRequestLine_eq_some hrequestLine
  obtain ⟨hnames, hvalues⟩ := readFields_eq_some hfields
  exact ⟨⟨fun h ↦ hcr (hmethodLine h), fun h ↦ hlf (hmethodLine h)⟩, hmethod,
    ⟨fun h ↦ hcr (htargetLine h), fun h ↦ hlf (htargetLine h)⟩, htarget, hnames, hvalues⟩

end HttpRequest

def urlPath (url : Text) : Text :=
  let path := (url.drop 8).dropWhile (· ≠ '/')
  if path = [] then ['/'] else path

def requestFields (host : Text) (body : Bytes) : List (Bytes × Bytes) :=
  (ascii "Host", 32 :: encodeText host) ::
    (if body = [] then [] else [(ascii "Content-Length", 32 :: ascii (toString body.length))]) ++
      [(ascii "Connection", ascii " keep-alive")]

def httpRequest (method : Method) (host path : Text) (body : Bytes) : HttpRequest :=
  ⟨encodeText method.text, encodeText path, requestFields host body, body⟩

def Request.asked (request : Request) (host : Text) : HttpRequest :=
  httpRequest request.method host (urlPath request.url) request.body

lemma encodeText_buildRequest (method : Method) (host path : Text) (body : Bytes) :
    encodeText (buildRequest method host path body) = (httpRequest method host path body).head := by
  have hspace : encodeText " ".toList = [32] := by decide
  have hhost : encodeText " HTTP/1.1\r\nHost: ".toList =
      32 :: ascii "HTTP/1.1" ++ [13, 10] ++ ascii "Host" ++ [58, 32] := by decide
  have hlen : encodeText "\r\nContent-Length: ".toList = [13, 10] ++ ascii "Content-Length" ++
      [58, 32] := by
    decide
  have hend : encodeText "\r\nConnection: keep-alive\r\n\r\n".toList =
      [13, 10] ++ ascii "Connection" ++ 58 :: ascii " keep-alive" ++ [13, 10, 13, 10] := by decide
  unfold buildRequest HttpRequest.head httpRequest requestFields
  split_ifs with hbody
  · simp only [encodeText_append, hspace, hhost, hend, flatMap_cons, flatMap_nil, renderField,
      append_assoc, cons_append, nil_append, append_nil]
  · simp only [encodeText_append, hspace, hhost, hlen, hend, flatMap_cons, flatMap_nil, renderField,
      append_assoc, cons_append, nil_append, append_nil, ascii]

lemma readNumber_ascii (n : ℕ) : readNumber (32 :: ascii (toString n)) = some n := by
  have htext : (toString n).toList = toDigits 10 n := by
    rw [toString_eq_ofList_toDigits, String.toList_ofList]
  have hdigit : ∀ c ∈ toDigits 10 n, c.isDigit = true := fun c hc ↦
    isDigit_of_mem_toDigits (by decide) (by decide) hc
  have hascii : ∀ c ∈ toDigits 10 n, c.toNat < 0x80 := fun c hc ↦ by
    have := isDigit_bounds (hdigit c hc)
    omega
  have htrim : trim (lossyText (32 :: ascii (toString n))) = toDigits 10 n := by
    rw [lossyText_cons_ascii (by decide), ascii, htext, lossyText_encodeText hascii]
    have hspace : ∀ c ∈ [octetChar 32], isWhitespace c = true := forall_mem_of_all (by decide)
    have hnothing : ∀ c ∈ ([] : Text), isWhitespace c = true := forall_mem_of_all rfl
    simpa using trim_append hspace (fun c hc ↦ isWhitespace_of_isDigit (hdigit c hc))
      toDigits_ne_nil hnothing
  have hall : (toDigits 10 n).all Char.isDigit = true := all_eq_true.mpr hdigit
  simp only [readNumber, htrim, toDigits_ne_nil, hall, ne_eq, not_false_eq_true, and_self, if_true,
    ofDigitChars_ten_toDigits]

lemma announcedLength_requestFields (host : Text) (body : Bytes) :
    announcedLength (requestFields host body) = some body.length := by
  have hhost (value : Bytes) : ¬isContentLength (ascii "Host", value) = true :=
    show ¬(toLowercase (lossyText (ascii "Host")) == "content-length".toList) = true by decide
  have hlen (value : Bytes) : isContentLength (ascii "Content-Length", value) = true :=
    show (toLowercase (lossyText (ascii "Content-Length")) == "content-length".toList) =
      true by decide
  have hconnection (value : Bytes) : ¬isContentLength (ascii "Connection", value) = true :=
    show ¬(toLowercase (lossyText (ascii "Connection")) == "content-length".toList) = true by decide
  unfold requestFields announcedLength
  split_ifs with hbody
  · rw [cons_append, find?_cons_of_neg (hhost _), nil_append, find?_cons_of_neg (hconnection _),
      find?_nil, hbody]
    rfl
  · rw [cons_append, find?_cons_of_neg (hhost _), cons_append, find?_cons_of_pos (hlen _)]
    exact readNumber_ascii body.length

def written (exchanges : List (Task.Exchange NetOp NetAnswer)) : Bytes :=
  exchanges.flatMap fun
    | ⟨.write _ data, .ok _⟩ => data
    | _ => []

/-- The call has come to read. -/
def HasRead (exchanges : List (Task.Exchange NetOp NetAnswer)) : Prop :=
  ∃ exchange ∈ exchanges, ∃ connection, exchange.op = .read connection

/-- An operation that neither writes nor reads. -/
def IsSilent (op : NetOp) : Prop := (∀ connection, op ≠ .read connection) ∧ ∀ connection data,
    op ≠ .write connection data

section Parts

variable {exchanges : List (Task.Exchange NetOp NetAnswer)}

lemma written_append (first second : List (Task.Exchange NetOp NetAnswer)) :
    written (first ++ second) = written first ++ written second := flatMap_append

lemma hasRead_append {first second : List (Task.Exchange NetOp NetAnswer)} :
    HasRead (first ++ second) ↔ HasRead first ∨ HasRead second := by
  simp only [HasRead, mem_append, or_and_right, exists_or]

lemma not_hasRead_of_silent (hsilent : ∀ exchange ∈ exchanges, IsSilent exchange.op) :
    ¬HasRead exchanges := by
  rintro ⟨exchange, hmem, connection, hop⟩
  exact (hsilent exchange hmem).1 connection hop

lemma written_of_not_write (hops : ∀ exchange ∈ exchanges, ∀ connection data, exchange.op ≠
    .write connection data) :
    written exchanges = [] := by
  refine flatMap_eq_nil_iff.mpr fun exchange hmem ↦ ?_
  have hop := hops exchange hmem
  split
  · exact absurd rfl (hop _ _)
  · rfl

/-- Connecting neither writes nor reads. -/
def Silent {α : Type} (call : Call α) : Prop := call.Obeys IsSilent (fun _ _ ↦ True) fun _ ↦ True

lemma silent_lookupHost (addr : Text) (wrap : String → HttpClientError) :
    Silent (lookupHost addr wrap) :=
  Task.Obeys.bind (.ask (by simp [IsSilent]) fun _ _ ↦ trivial) fun _ _ ↦ .check fun _ _ ↦ trivial

lemma silent_connectTls (connection : ConnId) : Silent (connectTls connection) :=
  Task.Obeys.bind (.ask (by simp [IsSilent]) fun _ _ ↦ trivial) fun _ _ ↦ .check fun _ _ ↦ trivial

lemma silent_validate (addr : Text) : Silent (validateAddressForSsrf addr) := by
  refine Task.Obeys.bind (silent_lookupHost addr _) fun addrs _ ↦ ?_
  split_ifs
  · exact .error _
  cases addrs.find? fun addr ↦ !isSkipped addr with
  | none => exact .error _
  | some valid => exact .pure trivial

lemma silent_connectAddrs (lastErr : Option String) (addrs : List SocketAddr) :
    Silent (connectAddrs lastErr addrs) := by
  induction addrs generalizing lastErr with
  | nil => exact .error _
  | cons addr rest ih =>
    refine ⟨by simp [IsSilent], fun found _ ↦ ?_⟩
    cases found with
    | ok connection => exact .pure trivial
    | error e => exact ih (some e)

lemma silent_gmConnect (host : Text) (port : ℕ) : Silent (GmHttpClient.connect host port) := by
  refine Task.Obeys.bind (silent_validate _) fun valid _ ↦ ?_
  refine Task.Obeys.bind (.ask (by simp [IsSilent]) fun _ _ ↦ trivial) fun found _ ↦ ?_
  refine Task.Obeys.bind (.check fun _ _ ↦ trivial) fun tcp _ ↦ ?_
  exact Task.Obeys.bind (silent_connectTls tcp) fun _ _ ↦ .pure trivial

lemma silent_pooledConnect (host : Text) (port : ℕ) :
    Silent (PooledHttpClient.connect host port) := by
  refine ⟨by simp [IsSilent], fun pooled _ ↦ ?_⟩
  cases pooled with
  | some connection => exact .pure trivial
  | none =>
    refine .bind (.bind (silent_lookupHost _ _) fun addrs _ ↦ silent_connectAddrs none addrs)
      fun tcp _ ↦ ?_
    exact .bind (silent_connectTls tcp) fun _ _ ↦ .pure trivial

lemma path_silent_bind {α β : Type} {call : Call α} {rest : α → Call β} {left : Call β}
    (hcall : Silent call)
    (hpath : Task.Path (call >>= rest) exchanges left) (hread : HasRead exchanges) :
    ∃ value earlier later, exchanges = earlier ++ later ∧ Task.Path (rest value) later left ∧
    HasRead later ∧
      written exchanges = written later := by
  have hsilent {call' : Call α} {some : List (Task.Exchange NetOp NetAnswer)}
    (hsome : Task.Path call some call') :
      ∀ exchange ∈ some, IsSilent exchange.op := hcall.path hsome fun _ _ ↦ trivial
  rcases Task.path_bind.mp hpath with ⟨first, hfirst, -, -⟩ | ⟨value, earlier, later,
    rfl, hfirst, hrest⟩
  · exact absurd hread (not_hasRead_of_silent (hsilent hfirst))
  refine ⟨value, earlier, later, rfl, hrest, ?_, ?_⟩
  · exact (hasRead_append.mp hread).resolve_left (not_hasRead_of_silent (hsilent hfirst))
  · rw [written_append, written_of_not_write fun exchange hmem ↦ (hsilent hfirst exchange hmem).2,
      nil_append]

lemma path_writeAll_bind {β : Type} {connection : ConnId} {data : Bytes} {rest : Unit → Call β}
    {left : Call β}
    (hpath : Task.Path (writeAll connection data >>= rest) exchanges left)
    (hread : HasRead exchanges) :
    ∃ later, Task.Path (rest ()) later left ∧ HasRead later ∧ written exchanges = data ++
    written later := by
  rcases Task.path_await.mp hpath with ⟨rfl, -⟩ | ⟨answer, later, rfl, hnext⟩
  · obtain ⟨exchange, hmem, -⟩ := hread
    cases hmem
  have hlater : HasRead later := by
    obtain ⟨exchange, hmem, connection, hop⟩ := hread
    rcases mem_cons.mp hmem with rfl | hmem
    · cases hop
    · exact ⟨exchange, hmem, connection, hop⟩
  cases answer with
  | error e =>
    obtain ⟨rfl, -⟩ := Task.path_done.mp hnext
    obtain ⟨exchange, hmem, -⟩ := hlater
    cases hmem
  | ok value => exact ⟨later, hnext, hlater, rfl⟩

end Parts

def Client.sent (client : Client) (request : Request) (parsed : ParsedUrl) : Bytes :=
  (httpRequest request.method parsed.host parsed.path request.body).head ++
    match client with
    | .gmHttpClient => request.body
    | .pooledHttpClient => []

section Calls

variable {client : Client} {request : Request} {parsed : ParsedUrl}
  {exchanges : List (Task.Exchange NetOp NetAnswer)} {left : Call Response}

lemma written_readResponse {reader : ConnId} {left : Call Response}
    (hpath : Task.Path (readResponse reader) exchanges left) : written exchanges = [] := by
  refine written_of_not_write fun exchange hmem connection data hop ↦ ?_
  have hreading : (readResponse reader).Obeys (· = .read reader) (fun _ _ ↦ True) fun _ ↦ True :=
    obeys_readResponse reader
  have hread := hreading.path hpath (fun _ _ ↦ trivial) exchange hmem
  rw [hop] at hread
  cases hread

lemma written_of_hasRead (hparsed : parseAndValidateUrl request.url = .ok parsed)
    (hpath : Task.Path (client.call request) exchanges left) (hread : HasRead exchanges) :
    written exchanges = client.sent request parsed := by
  unfold call at hpath
  rw [hparsed, Task.check_ok_bind] at hpath
  unfold sent
  rw [← encodeText_buildRequest]
  cases client with
  | gmHttpClient =>
    obtain ⟨connection, earlier, later, rfl, hpath, hread, hwrote⟩ :=
      path_silent_bind (silent_gmConnect _ _) hpath hread
    obtain ⟨rest, hpath, hread, hhead⟩ := path_writeAll_bind hpath hread
    rw [hwrote, hhead]
    by_cases hbody : request.body = []
    · have hnothing : writeBody connection request.body = pure () := by simp [writeBody, hbody]
      rw [hnothing] at hpath
      have hresp : Task.Path (readResponse connection) rest left := hpath
      rw [written_readResponse hresp, hbody]
    have hwhole : writeBody connection request.body = writeAll connection request.body := by
      simp [writeBody, hbody]
    rw [hwhole] at hpath
    obtain ⟨final, hpath, -, hbody⟩ := path_writeAll_bind hpath hread
    rw [hbody, written_readResponse hpath, append_nil]
  | pooledHttpClient =>
    obtain ⟨connection, earlier, later, rfl, hpath, hread, hwrote⟩ :=
      path_silent_bind (silent_pooledConnect _ _) hpath hread
    obtain ⟨rest, hpath, -, hhead⟩ := path_writeAll_bind hpath hread
    rw [hwrote, hhead]
    congr 1
    -- what comes after the header is read, and the connection given back
    have hquiet : (readResponse connection >>= fun response ↦
        Task.ask (.returnConnection parsed.host parsed.port connection) >>= fun _ ↦
          pure response).Obeys
          (fun op ↦ ∀ connection data, op ≠ .write connection data) (fun _ _ ↦ True) fun _ ↦
            True := by
      refine .bind ((obeys_readResponse connection).mono ?_ fun _ _ ↦ trivial) fun response _ ↦ ?_
      · rintro op rfl connection data hop
        cases hop
      · exact .bind (.ask (by simp) fun _ _ ↦ trivial) fun _ _ ↦ .pure trivial
    exact written_of_not_write (hquiet.path hpath fun _ _ ↦ trivial)

lemma exists_path_gmConnect_ok (host : Text) (port : ℕ) :
    ∃ exchanges, Task.Path (GmHttpClient.connect host port) exchanges (.done (.ok 0)) :=
  ⟨[⟨.lookupHost (authority host port), .ok [⟨.v4 ⟨8, 8, 8, 8⟩, port⟩]⟩,
    ⟨.connectTcp ⟨.v4 ⟨8, 8, 8, 8⟩, port⟩, .ok 0⟩, ⟨.connectTls 0, .ok ()⟩],
    .cons (.cons (.cons (.nil _)))⟩

lemma exists_path_pooledConnect_ok (host : Text) (port : ℕ) :
    ∃ exchanges, Task.Path (PooledHttpClient.connect host port) exchanges (.done (.ok 0)) :=
  ⟨[⟨.getConnection host port, some 0⟩], .cons (.nil _)⟩

variable (connection : ConnId)

lemma path_writeAll_ok (data : Bytes) :
    Task.Path (writeAll connection data) [⟨.write connection data, .ok ()⟩] (.done (.ok ())) :=
    .cons (.nil _)

lemma exists_path_writeBody_ok (body : Bytes) :
    ∃ exchanges, Task.Path (writeBody connection body) exchanges (.done (.ok ())) := by
  unfold writeBody
  split_ifs
  · exact ⟨_, path_writeAll_ok connection body⟩
  · exact ⟨_, .nil _⟩

lemma exists_path_readResponse :
    ∃ left, Task.Path (readResponse connection) [⟨.read connection, .error "connection reset"⟩]
    left := by
  have hhdr : Task.Path (readHeader connection []) [⟨.read connection, .error "connection reset"⟩]
      (fail (.ioError "connection reset")) := by
    rw [readHeader, if_pos (by decide)]
    exact .cons (.nil _)
  exact ⟨_, hhdr.within⟩

lemma exists_path_hasRead (hparsed : parseAndValidateUrl request.url = .ok parsed)
    (client : Client) :
    ∃ exchanges left, Task.Path (client.call request) exchanges left ∧ HasRead exchanges := by
  obtain ⟨left, hresp⟩ := exists_path_readResponse 0
  have hread (earlier : List (Task.Exchange NetOp NetAnswer)) :
      HasRead (earlier ++ [⟨.read 0, .error "connection reset"⟩]) :=
    hasRead_append.mpr (.inr ⟨_, mem_singleton_self _, 0, rfl⟩)
  unfold call
  rw [hparsed]
  cases client with
  | gmHttpClient =>
    obtain ⟨connecting, hconnect⟩ := exists_path_gmConnect_ok parsed.host parsed.port
    obtain ⟨writing, hwrite⟩ := exists_path_writeBody_ok 0 request.body
    refine ⟨_, _, hconnect.through ((path_writeAll_ok 0 _).through (hwrite.through hresp)), ?_⟩
    rw [← append_assoc, ← append_assoc]
    exact hread _
  | pooledHttpClient =>
    obtain ⟨connecting, hconnect⟩ := exists_path_pooledConnect_ok parsed.host parsed.port
    refine ⟨_, _, hconnect.through ((path_writeAll_ok 0 _).through hresp.within), ?_⟩
    rw [← append_assoc]
    exact hread _

/-! ### Faithful requests -/

def IsFaithful (client : Client) (request : Request) (parsed : ParsedUrl) : Prop :=
  ∀ exchanges left, Task.Path (client.call request) exchanges left → HasRead exchanges →
    readHttpRequest (written exchanges) = some (request.asked parsed.host)

/-- The URL has a path, and neither host nor path ends the line or the word it stands in. -/
structure IsClean (url : Text) (parsed : ParsedUrl) : Prop where
  path : '/' ∈ url.drop 8
  host_line : ∀ c ∈ parsed.host, c ≠ '\r' ∧ c ≠ '\n'
  path_line : ∀ c ∈ parsed.path, c ≠ '\r' ∧ c ≠ '\n' ∧ c ≠ ' '

lemma isFaithful_iff_sent (hparsed : parseAndValidateUrl request.url = .ok parsed) :
    IsFaithful client request parsed ↔
      readHttpRequest (client.sent request parsed) = some (request.asked parsed.host) := by
  constructor
  · intro hfaithful
    obtain ⟨exchanges, left, hpath, hread⟩ := exists_path_hasRead hparsed client
    rw [← written_of_hasRead hparsed hpath hread]
    exact hfaithful exchanges left hpath hread
  intro hsent exchanges left hpath hread
  rw [written_of_hasRead hparsed hpath hread]
  exact hsent

/-! Paths of URLs -/

section

variable (hparsed : parseAndValidateUrl request.url = .ok parsed)

include hparsed

lemma path_of_parse : parsed.path = '/' :: (splitUrl (request.url.drop 8)).2 := by
  obtain ⟨-, hparsed⟩ := unit_bind_eq_ok.mp hparsed
  obtain ⟨⟨host, port⟩, -, hparsed⟩ := bind_eq_ok.mp hparsed
  obtain ⟨-, hparsed⟩ := unit_bind_eq_ok.mp hparsed
  obtain ⟨-, hparsed⟩ := unit_bind_eq_ok.mp hparsed
  cases hparsed
  rfl

lemma path_eq_urlPath (hpath : '/' ∈ request.url.drop 8) : parsed.path = urlPath request.url := by
  obtain ⟨before, after, hsplit, hbefore⟩ := eq_append_cons_of_mem hpath
  have hdrop : (request.url.drop 8).dropWhile (· ≠ '/') = '/' :: after := by
    rw [hsplit, dropWhile_append_of_pos fun c hc ↦ decide_eq_true (ne_of_mem_of_not_mem hc hbefore)]
    simp
  rw [path_of_parse hparsed, splitUrl, hsplit, splitOnce_append hbefore]
  rw [hsplit] at hdrop
  simp only [getD_some, urlPath, hsplit, hdrop, reduceCtorEq, if_false]

lemma path_of_no_slash (hpath : '/' ∉ request.url.drop 8) : parsed.path = ['/', '/'] ∧
    urlPath request.url = ['/'] := by
  have hdrop : (request.url.drop 8).dropWhile (· ≠ '/') = [] := by
    rw [dropWhile_eq_nil_iff]
    exact fun c hc ↦ decide_eq_true (ne_of_mem_of_not_mem hc hpath)
  refine ⟨?_, ?_⟩
  · rw [path_of_parse hparsed, splitUrl, splitOnce_eq_none.mpr hpath]
    rfl
  · simp only [urlPath, hdrop, if_true]

end

variable {text : Text}

lemma mem_encodeText_iff {octet : UInt8} {c : Char} (hc : c.toNat = octet.toNat)
    (hascii : octet.toNat < 0x80) : octet ∈ encodeText text ↔ c ∈ text := by
  rw [mem_encodeText_ascii hascii]
  constructor
  · rintro ⟨other, hother, heq⟩
    rwa [← Char.toNat_inj.mp (heq.trans hc.symm)]
  · intro hmem
    exact ⟨c, hmem, hc⟩

lemma oneLine_encodeText : OneLine (encodeText text) ↔ ∀ c ∈ text, c ≠ '\r' ∧ c ≠ '\n' := by
  have hcr : (13 : UInt8) ∈ encodeText text ↔ '\r' ∈ text := mem_encodeText_iff rfl (by decide)
  have hlf : (10 : UInt8) ∈ encodeText text ↔ '\n' ∈ text := mem_encodeText_iff rfl (by decide)
  rw [OneLine, hcr, hlf]
  constructor
  · rintro ⟨hcr, hlf⟩ c hc
    exact ⟨ne_of_mem_of_not_mem hc hcr, ne_of_mem_of_not_mem hc hlf⟩
  · intro hall
    exact ⟨fun hmem ↦ (hall _ hmem).1 rfl, fun hmem ↦ (hall _ hmem).2 rfl⟩

lemma not_space_mem_encodeText : 32 ∉ encodeText text ↔ ∀ c ∈ text, c ≠ ' ' := by
  rw [mem_encodeText_iff (show ' '.toNat = (32 : UInt8).toNat from rfl) (by decide)]
  exact ⟨fun hnot c hc ↦ ne_of_mem_of_not_mem hc hnot, fun hall hmem ↦ hall _ hmem rfl⟩

lemma oneLine_toString (n : ℕ) : OneLine (ascii (toString n)) := by
  refine oneLine_encodeText.mpr fun c hc ↦ ?_
  rw [toString_eq_ofList_toDigits, String.toList_ofList] at hc
  have hdigit := isDigit_of_mem_toDigits (by decide) (by decide) hc
  constructor
  · rintro rfl
    cases hdigit
  · rintro rfl
    cases hdigit

lemma mem_requestFields {host : Text} {body : Bytes} {field : Bytes × Bytes}
    (hfield : field ∈ requestFields host body) : field = (ascii "Host", 32 :: encodeText host) ∨
      field = (ascii "Content-Length", 32 :: ascii (toString body.length)) ∨
        field = (ascii "Connection", ascii " keep-alive") := by
  unfold requestFields at hfield
  split_ifs at hfield
  · rcases mem_cons.mp hfield with hfield | hfield
    · exact .inl hfield
    · exact .inr (.inr (mem_singleton.mp hfield))
  rcases mem_cons.mp hfield with hfield | hfield
  · exact .inl hfield
  rcases mem_cons.mp hfield with hfield | hfield
  · exact .inr (.inl hfield)
  · exact .inr (.inr (mem_singleton.mp hfield))

lemma headWellFormed_httpRequest {method : Method} {host path : Text} {body : Bytes} :
    (httpRequest method host path body).HeadWellFormed ↔
      (∀ c ∈ host, c ≠ '\r' ∧ c ≠ '\n') ∧ ∀ c ∈ path, c ≠ '\r' ∧ c ≠ '\n' ∧ c ≠ ' ' := by
  constructor
  · intro hwf
    have hhost := (hwf.values (ascii "Host", 32 :: encodeText host) mem_cons_self)
    have hline : OneLine (encodeText host) :=
      ⟨fun hmem ↦ hhost.1 (mem_cons_of_mem _ hmem), fun hmem ↦ hhost.2 (mem_cons_of_mem _ hmem)⟩
    have htarget := oneLine_encodeText.mp hwf.target_line
    have hword := not_space_mem_encodeText.mp hwf.target_word
    exact ⟨oneLine_encodeText.mp hline, fun c hc ↦ ⟨(htarget c hc).1, (htarget c hc).2, hword c hc⟩⟩
  rintro ⟨hhost, hpath⟩
  have hmethod : OneLine (encodeText method.text) ∧ 32 ∉ encodeText method.text := by
    cases method <;> decide
  refine ⟨hmethod.1, hmethod.2, ?_, ?_, ?_, ?_⟩
  · exact oneLine_encodeText.mpr fun c hc ↦ ⟨(hpath c hc).1, (hpath c hc).2.1⟩
  · exact not_space_mem_encodeText.mpr fun c hc ↦ (hpath c hc).2.2
  · intro field hfield
    rcases mem_requestFields hfield with rfl | rfl | rfl <;> dsimp only <;> decide
  intro field hfield
  rcases mem_requestFields hfield with rfl | rfl | rfl
  · exact oneLine_append (show OneLine [32] by decide) (oneLine_encodeText.mpr hhost)
  · exact oneLine_append (show OneLine [32] by decide) (oneLine_toString body.length)
  · dsimp only
    decide

lemma readHttpRequest_sent
    (hwf : (httpRequest request.method parsed.host parsed.path request.body).HeadWellFormed)
    (client : Client) :
    readHttpRequest (client.sent request parsed) =
      if client = .pooledHttpClient ∧ request.body ≠ [] then none
      else some (httpRequest request.method parsed.host parsed.path request.body) := by
  have hann := announcedLength_requestFields parsed.host request.body
  unfold sent
  rw [HttpRequest.readHttpRequest_head_append hwf]
  simp only [httpRequest, hann]
  cases client with
  | gmHttpClient => simp
  | pooledHttpClient =>
    by_cases hbody : request.body = []
    · simp [hbody]
    · simp [hbody]

lemma isFaithful_iff_isClean (hparsed : parseAndValidateUrl request.url = .ok parsed)
    (client : Client) :
    IsFaithful client request parsed ↔ IsClean request.url parsed ∧
    ¬(client = .pooledHttpClient ∧ request.body ≠ []) := by
  rw [isFaithful_iff_sent hparsed]
  constructor
  · intro hread
    have hasked := HttpRequest.headWellFormed_of_readHttpRequest hread
    obtain ⟨hhost, hurl⟩ := headWellFormed_httpRequest.mp hasked
    by_cases hslash : '/' ∈ request.url.drop 8
    · rw [← path_eq_urlPath hparsed hslash] at hurl
      rw [readHttpRequest_sent (headWellFormed_httpRequest.mpr ⟨hhost, hurl⟩)] at hread
      refine ⟨⟨hslash, hhost, hurl⟩, fun hpooled ↦ ?_⟩
      rw [if_pos hpooled] at hread
      cases hread
    -- two slashes are sent, and one is asked for
    obtain ⟨hsent, hurlPath⟩ := path_of_no_slash hparsed hslash
    have hclean : ∀ c ∈ parsed.path, c ≠ '\r' ∧ c ≠ '\n' ∧ c ≠ ' ' := by
      rw [hsent]
      exact forall_mem_of_all (by decide)
    rw [readHttpRequest_sent (headWellFormed_httpRequest.mpr ⟨hhost, hclean⟩)] at hread
    split_ifs at hread
    have htarget := congrArg HttpRequest.target (some.inj hread)
    simp only [Request.asked, httpRequest, hsent, hurlPath] at htarget
    exact absurd htarget (by decide)
  rintro ⟨hclean, hbody⟩
  rw [readHttpRequest_sent (headWellFormed_httpRequest.mpr ⟨hclean.host_line, hclean.path_line⟩),
    if_neg hbody,
    Request.asked, path_eq_urlPath hparsed hclean.path]

/-- Both clients write the same octets when they come to read. -/
def SameOctets (request : Request) : Prop :=
  ∀ exchanges left exchanges' left', Task.Path (Client.call .gmHttpClient request) exchanges left →
    Task.Path (Client.call .pooledHttpClient request) exchanges' left' → HasRead exchanges →
    HasRead exchanges' →
      written exchanges = written exchanges'

lemma sameOctets_iff (hparsed : parseAndValidateUrl request.url = .ok parsed) : SameOctets request ↔
    request.body = [] := by
  have hsent : sent .gmHttpClient request parsed = sent .pooledHttpClient request parsed ↔
      request.body = [] := append_right_inj _
  rw [← hsent]
  constructor
  · intro hsame
    obtain ⟨exchanges, left, hpath, hread⟩ := exists_path_hasRead hparsed .gmHttpClient
    obtain ⟨exchanges', left', hpath', hread'⟩ := exists_path_hasRead hparsed .pooledHttpClient
    rw [← written_of_hasRead hparsed hpath hread, ← written_of_hasRead hparsed hpath' hread']
    exact hsame exchanges left exchanges' left' hpath hpath' hread hread'
  · intro hequal exchanges left exchanges' left' hpath hpath' hread hread'
    rw [written_of_hasRead hparsed hpath hread, written_of_hasRead hparsed hpath' hread', hequal]

end Calls

end GmStack.Http
