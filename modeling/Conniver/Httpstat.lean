import Conniver.Go.Basic
import Conniver.Go.Strings
import Conniver.Lib.Sorting
import Conniver.Lib.Events
import Mathlib.Order.Basic
import Mathlib.Data.String.Basic
import Mathlib.Data.Prod.Lex

/-!
The request and the printed response headers of `cmd/httpstat`. `newRequest` gives
`http.NewRequest` the body `createBody` makes of the `-d` flag, a data file when it starts
with '@'; then each `-H` flag is split by `headerKeyValue` at its first ':', a flag whose key
folds to `host` sets the request's `Host`, and every other one is added to the header. Each
`log.Fatalf` on the way is a `none`. The names of the response header are printed in the
order `sort.Sort(headers(names))` leaves them in.

`(headers).Less` puts `Server` first, then the end-to-end headers, then the hop-by-hop ones
of RFC 2616, section 13.5.1, each class in byte order. On distinct names this is the order of
a key, so the sort has only one possible result. It also says that `Server` is less than
itself, which `sort.Sort` forbids, but the names of a header are distinct.

`strings.EqualFold` and `textproto.CanonicalMIMEHeaderKey` rest on Unicode's tables, and
`os.Open` and `http.NewRequest` on the world outside: they are parameters here. Go compares strings by their bytes, which for the valid UTF-8 of a Lean
string is the order of their runes that Mathlib's `String` order is.
-/

namespace Httpstat

open Go.strings

section order

-- `endtoend` in `(headers).Less`
def endtoend (n : String) : Bool :=
  match n with
  | "Connection" | "Keep-Alive" | "Proxy-Authenticate" | "Proxy-Authorization" | "TE"
  | "Trailers" | "Transfer-Encoding" | "Upgrade" => false
  | _ => true

-- `(headers).Less` on the names `a` and `b`
def less (a b : String) : Bool :=
  if a = "Server" then true
  else if b = "Server" then false
  else
    let x := endtoend a
    let y := endtoend b
    if x = y then decide (a < b) else x

def rank (n : String) : Nat :=
  if n = "Server" then 0 else if endtoend n then 1 else 2

-- the printed order, by class and then by name
def orderKey (n : String) : Lex (Nat × String) :=
  toLex (rank n, n)

theorem orderKey_injective : Function.Injective orderKey :=
  fun _ _ h => congrArg (fun k => (ofLex k).2) h

theorem orderKey_lt_orderKey_iff {a b : String}
    : orderKey a < orderKey b ↔ rank a < rank b ∨ rank a = rank b ∧ a < b :=
  Prod.Lex.toLex_lt_toLex

theorem less_eq_true_iff (a b : String)
    : less a b = true ↔ orderKey a < orderKey b ∨ (a = "Server" ∧ b = "Server") := by
  rw [orderKey_lt_orderKey_iff]
  unfold less rank
  by_cases ha : a = "Server"
  . by_cases hb : b = "Server"
    . simp [ha, hb]
    . cases endtoend b <;> simp [ha, hb]
  . by_cases hb : b = "Server"
    . cases endtoend a <;> simp [ha, hb]
    . cases endtoend a <;> cases endtoend b <;> simp [ha, hb]

theorem less_iff_of_ne {a b : String} (h : a ≠ b) : less a b = true ↔ orderKey a < orderKey b := by
  rw [less_eq_true_iff]
  exact or_iff_left (fun ⟨ha, hb⟩ => h (ha.trans hb.symm))

theorem sort_headers_order (names out : List String) (hnodup : names.Nodup)
    (h : Sorting.SortResult less names out)
    : out.Pairwise (fun a b => rank a < rank b ∨ rank a = rank b ∧ a < b) ∧
        ∀ out', Sorting.SortResult less names out' → out' = out := by
  have hless : ∀ a ∈ names, ∀ b ∈ names, a ≠ b → (less a b = true ↔ orderKey a < orderKey b) :=
    fun _ _ _ _ hab => less_iff_of_ne hab
  refine ⟨?_, fun out' h' => Sorting.eq_of_sortResult orderKey_injective hless hnodup h h'⟩
  have hkey := Sorting.pairwise_key_lt orderKey_injective hless hnodup h
  exact hkey.imp orderKey_lt_orderKey_iff.1

theorem sort_headers_order_server_first
    : ["Date", "Connection", "Server", "Content-Type"].Nodup ∧
        Sorting.SortResult less ["Date", "Connection", "Server", "Content-Type"]
          ["Server", "Content-Type", "Date", "Connection"] ∧
        ["Server", "Content-Type", "Date", "Connection"].Pairwise
          (fun a b => rank a < rank b ∨ rank a = rank b ∧ a < b) ∧
        ∀ out', Sorting.SortResult less ["Date", "Connection", "Server", "Content-Type"] out' →
          out' = ["Server", "Content-Type", "Date", "Connection"] := by
  have hnodup : ["Date", "Connection", "Server", "Content-Type"].Nodup := by decide
  have hsort : Sorting.SortResult less ["Date", "Connection", "Server", "Content-Type"]
      ["Server", "Content-Type", "Date", "Connection"] := ⟨by decide, by decide⟩
  exact ⟨hnodup, hsort, sort_headers_order _ _ hnodup hsort⟩

end order

section flags

-- `headerKeyValue`; `none` stands for its `log.Fatalf` on a header without ':'
def headerKeyValue (h : String) : Option (String × String) :=
  match index h.toList ':' with
  | none => none
  | some i =>
    some (String.ofList (trimRight (h.toList.take i) [' ']),
      String.ofList (trimLeft (h.toList.drop i) [' ', ':']))

theorem headerKeyValue_eq_none_iff (h : String) : headerKeyValue h = none ↔ ':' ∉ h.toList := by
  unfold headerKeyValue index
  cases hi : h.toList.idxOf? ':' with
  | none => simpa using hi
  | some i =>
    have hmem : ':' ∈ h.toList :=
      not_not.1 (List.idxOf?_eq_none_iff.not.1 (by rw [hi]; exact Option.some_ne_none i))
    simp [hmem]

theorem headerKeyValue_append_colon (k v : List Char) (hk : ':' ∉ k)
    : headerKeyValue (String.ofList (k ++ ':' :: v)) =
        some (String.ofList (trimRight k [' ']), String.ofList (trimLeft v [' ', ':'])) := by
  unfold headerKeyValue
  rw [String.toList_ofList, index_append_cons hk]
  dsimp only
  rw [List.take_left, List.drop_left, trimLeft, List.dropWhile_cons_of_pos (by decide)]
  rfl

-- the trim takes the colons of a value with them: `-H "Host: ::1"` sets the host `1`
example : headerKeyValue "Host: ::1" = some ("Host", "1") := by rfl

theorem headerKeyValue_flag (k v : List Char) (m n : Nat) (hk : ':' ∉ k)
    (hklast : k.getLast? ≠ some ' ') (hvhead : v.head? ≠ some ' ' ∧ v.head? ≠ some ':')
    : headerKeyValue (String.ofList (k ++ List.replicate m ' ' ++ ':' :: (List.replicate n ' ' ++ v))) =
        some (String.ofList k, String.ofList v) := by
  have hkm : ':' ∉ k ++ List.replicate m ' ' := by
    simp only [List.mem_append, List.mem_replicate, not_or]
    exact ⟨hk, fun h => absurd h.2 (by decide)⟩
  rw [headerKeyValue_append_colon _ _ hkm]
  have hkey : trimRight (k ++ List.replicate m ' ') [' '] = k := by
    refine trimRight_append_replicate m (by decide) ?_
    cases hl : k.getLast? with
    | none => rfl
    | some c => simpa [hl] using hklast
  have hval : trimLeft (List.replicate n ' ' ++ v) [' ', ':'] = v := by
    refine trimLeft_append (fun c hc => by simp [List.eq_of_mem_replicate hc]) ?_
    cases hh : v.head? with
    | none => rfl
    | some c => simp_all
  rw [hkey, hval]

theorem headerKeyValue_flag_accept
    : ':' ∉ "Accept".toList ∧ "Accept".toList.getLast? ≠ some ' ' ∧
        ("text/html".toList.head? ≠ some ' ' ∧ "text/html".toList.head? ≠ some ':') ∧
        headerKeyValue (String.ofList ("Accept".toList ++ List.replicate 0 ' ' ++
          ':' :: (List.replicate 1 ' ' ++ "text/html".toList))) =
          some (String.ofList "Accept".toList, String.ofList "text/html".toList) :=
  ⟨by decide, by decide, ⟨by decide, by decide⟩,
    headerKeyValue_flag _ _ 0 1 (by decide) (by decide) ⟨by decide, by decide⟩⟩

end flags

section request

variable (equalFold : String → String → Bool) (canonicalMIMEHeaderKey : String → String)

/--
What `newRequest` sets from the `-H` flags: the request's `Host`, which `http.NewRequest`
takes from the URL, and its header, each key with its values in the order they were added.
-/
structure Request where
  host : String
  header : Go.Map (List String)

-- `req.Header.Add(k, v)`, which makes the key canonical and appends the value
def Request.add (req : Request) (k v : String) : Request :=
  let key := canonicalMIMEHeaderKey k
  { req with header := req.header.insert key ((req.header.get? key).getD [] ++ [v]) }

-- the body of the loop of `newRequest` for a flag that `headerKeyValue` split into `kv`
def setHeader (req : Request) (kv : String × String) : Request :=
  if equalFold kv.1 "host" then { req with host := kv.2 }
  else req.add canonicalMIMEHeaderKey kv.1 kv.2

-- the loop of `newRequest` over `httpHeaders`; `none` is the `log.Fatalf` of
-- `headerKeyValue`
def setHeaders (req : Request) : List String → Option Request
  | [] => some req
  | h :: hs =>
    match headerKeyValue h with
    | none => none
    | some kv => setHeaders (setHeader equalFold canonicalMIMEHeaderKey req kv) hs

-- the `io.Reader` that `createBody` gives `http.NewRequest`: the opened data file, or
-- `strings.NewReader(body)`
inductive Body where
  | file (name : String)
  | string (s : String)
  deriving DecidableEq, Repr

variable (canOpen : String → Bool) (newHTTPRequest : String → String → Body → Option Request)

-- `createBody`; `canOpen name` is whether `os.Open(name)` succeeds
def createBody (body : String) : Option Body :=
  if hasPrefix body.toList ['@'] then
    let filename := String.ofList (body.toList.drop 1)
    if canOpen filename then some (.file filename) else none
  else some (.string body)

-- `newRequest` with `url.String()` as `url`; `newHTTPRequest` is `http.NewRequest`, with
-- `none` for its error
def newRequest (method url body : String) (httpHeaders : List String) : Option Request := do
  let reader ← createBody canOpen body
  let req ← newHTTPRequest method url reader
  setHeaders equalFold canonicalMIMEHeaderKey req httpHeaders

def hostValue (kv : String × String) : Option String :=
  if equalFold kv.1 "host" then some kv.2 else none

def headerValue (key : String) (kv : String × String) : Option String :=
  if !equalFold kv.1 "host" && canonicalMIMEHeaderKey kv.1 == key then some kv.2 else none

theorem setHeaders_eq_none_iff (req : Request) (hs : List String)
    : setHeaders equalFold canonicalMIMEHeaderKey req hs = none ↔ ∃ h ∈ hs, ':' ∉ h.toList := by
  induction hs generalizing req with
  | nil => simp [setHeaders]
  | cons h hs ih =>
    rw [setHeaders]
    cases hkv : headerKeyValue h with
    | none =>
      have hcolon := (headerKeyValue_eq_none_iff h).1 hkv
      simpa using Or.inl hcolon
    | some kv =>
      have hcolon : ':' ∈ h.toList :=
        not_not.1 ((headerKeyValue_eq_none_iff h).not.1 (by rw [hkv]; exact Option.some_ne_none kv))
      dsimp only
      rw [ih]
      simp [hcolon]

theorem createBody_eq_none_iff (body : String)
    : createBody canOpen body = none ↔
        ∃ name, body.toList = '@' :: name ∧ canOpen (String.ofList name) = false := by
  unfold createBody hasPrefix
  cases hb : body.toList with
  | nil => simp
  | cons c name =>
    by_cases hc : c = '@'
    . subst hc
      cases canOpen (String.ofList name) <;> simp
    . simp [hc, Ne.symm hc]

theorem newRequest_eq_setHeaders {method url body : String} {hs : List String} {reader : Body}
    {req : Request} (hb : createBody canOpen body = some reader)
    (hr : newHTTPRequest method url reader = some req)
    : newRequest equalFold canonicalMIMEHeaderKey canOpen newHTTPRequest method url body hs =
        setHeaders equalFold canonicalMIMEHeaderKey req hs := by
  simp [newRequest, hb, hr]

theorem newRequest_eq_none_iff (method url body : String) (hs : List String)
    : newRequest equalFold canonicalMIMEHeaderKey canOpen newHTTPRequest method url body hs = none ↔
        (∃ name, body.toList = '@' :: name ∧ canOpen (String.ofList name) = false) ∨
        (∃ reader, createBody canOpen body = some reader ∧ newHTTPRequest method url reader = none) ∨
        ∃ h ∈ hs, ':' ∉ h.toList := by
  rw [← createBody_eq_none_iff]
  cases hb : createBody canOpen body with
  | none => simp [newRequest, hb]
  | some reader =>
    cases hr : newHTTPRequest method url reader with
    | none => simp [newRequest, hb, hr]
    | some req =>
      rw [newRequest_eq_setHeaders equalFold canonicalMIMEHeaderKey canOpen newHTTPRequest hb hr,
        setHeaders_eq_none_iff]
      simp [hr]

theorem setHeaders_of_map_some (req : Request) (hs : List String) (kvs : List (String × String))
    (hkvs : hs.map headerKeyValue = kvs.map some)
    : setHeaders equalFold canonicalMIMEHeaderKey req hs =
        some (kvs.foldl (setHeader equalFold canonicalMIMEHeaderKey) req) := by
  induction hs generalizing req kvs with
  | nil =>
    cases kvs with
    | nil => rfl
    | cons kv kvs => cases hkvs
  | cons h hs ih =>
    cases kvs with
    | nil => cases hkvs
    | cons kv kvs =>
      rw [List.map_cons, List.map_cons, List.cons.injEq] at hkvs
      rw [setHeaders, hkvs.1, List.foldl_cons]
      exact ih _ kvs hkvs.2

theorem host_foldl_setHeader (req : Request) (kvs : List (String × String))
    : (kvs.foldl (setHeader equalFold canonicalMIMEHeaderKey) req).host =
        ((kvs.filterMap (hostValue equalFold)).getLast?).getD req.host := by
  rw [← Events.foldl_overwrite]
  refine (List.foldl_hom Request.host ?_).symm
  intro req kv
  unfold setHeader Events.overwrite hostValue
  by_cases hf : equalFold kv.1 "host" <;> simp [hf, Request.add]

theorem get?_foldl_setHeader (req : Request) (kvs : List (String × String)) (key : String)
    : ((kvs.foldl (setHeader equalFold canonicalMIMEHeaderKey) req).header.get? key).getD [] =
        (req.header.get? key).getD [] ++
          kvs.filterMap (headerValue equalFold canonicalMIMEHeaderKey key) := by
  rw [← Events.foldl_append]
  refine (List.foldl_hom (fun req : Request => (req.header.get? key).getD []) ?_).symm
  intro req kv
  unfold setHeader Events.append headerValue
  by_cases hf : equalFold kv.1 "host"
  . simp [hf]
  . by_cases hk : canonicalMIMEHeaderKey kv.1 = key
    . simp [hf, hk, Request.add, Go.Map.get?_insert]
    . simp [hf, hk, Request.add, Go.Map.get?_insert, Ne.symm hk]

theorem newRequest_headers (req : Request) (hs : List String) (kvs : List (String × String))
    (hkvs : hs.map headerKeyValue = kvs.map some)
    : ∃ req', setHeaders equalFold canonicalMIMEHeaderKey req hs = some req' ∧
        req'.host = ((kvs.filterMap (hostValue equalFold)).getLast?).getD req.host ∧
        ∀ key, (req'.header.get? key).getD [] =
          (req.header.get? key).getD [] ++
            kvs.filterMap (headerValue equalFold canonicalMIMEHeaderKey key) :=
  ⟨_, setHeaders_of_map_some equalFold canonicalMIMEHeaderKey req hs kvs hkvs,
    host_foldl_setHeader equalFold canonicalMIMEHeaderKey req kvs,
    get?_foldl_setHeader equalFold canonicalMIMEHeaderKey req kvs⟩

theorem newRequest_headers_host_flag
    : let equalFold := fun a b : String => a.toLower == b.toLower
      let hs := ["Accept: */*", "host: example.com", "X-Trace: 1"]
      let kvs := [("Accept", "*/*"), ("host", "example.com"), ("X-Trace", "1")]
      let req : Request := ⟨"example.org", ⟨[]⟩⟩
      hs.map headerKeyValue = kvs.map some ∧
        ∃ req', setHeaders equalFold id req hs = some req' ∧
          req'.host = ((kvs.filterMap (hostValue equalFold)).getLast?).getD req.host ∧
          ∀ key, (req'.header.get? key).getD [] =
            (req.header.get? key).getD [] ++ kvs.filterMap (headerValue equalFold id key) := by
  intro equalFold hs kvs req
  have hkvs : hs.map headerKeyValue = kvs.map some := by decide
  exact ⟨hkvs, newRequest_headers equalFold id req hs kvs hkvs⟩

end request

end Httpstat
