import JobFlow.Schema.Pattern
import JobFlow.Schema.Draft

/-!
# Formats

What the `format` keyword asks of a string, in the drafts that check formats: dates and
times of RFC 3339, e-mail addresses, host names, IPv4 and IPv6 addresses, URIs, IRIs and
their references (RFC 3986, RFC 3987), URI templates (RFC 6570), JSON pointers and relative
JSON pointers, and regular expressions.
-/

namespace JobFlow

namespace Schema

namespace Format

/-- The value of two decimal digits, if they are digits. -/
def twoDigits (a b : Char) : Option Nat :=
  if a.isDigit ∧ b.isDigit then some ((a.toNat - 48) * 10 + (b.toNat - 48)) else none

/-- Whether a year is a leap year. -/
def leap (y : Nat) : Bool := (y % 4 = 0 ∧ y % 100 ≠ 0) ∨ y % 400 = 0

/-- The number of days of a month. -/
def monthDays (y m : Nat) : Nat :=
  if m = 2 then (if leap y then 29 else 28)
  else if m = 4 ∨ m = 6 ∨ m = 9 ∨ m = 11 then 30 else 31

/-- A full date `YYYY-MM-DD` that exists. -/
def isDate (s : String) : Bool :=
  match s.toList with
  | [y1, y2, y3, y4, '-', m1, m2, '-', d1, d2] =>
    match twoDigits y1 y2, twoDigits y3 y4, twoDigits m1 m2, twoDigits d1 d2 with
    | some a, some b, some m, some d =>
      let y := a * 100 + b
      1 ≤ m ∧ m ≤ 12 ∧ 1 ≤ d ∧ d ≤ monthDays y m
    | _, _, _, _ => false
  | _ => false

/-- A full time `HH:MM:SS[.frac](Z|+HH:MM|-HH:MM)`; a leap second must fall at 23:59 UTC. -/
def isTime (s : String) : Bool :=
  match s.toList with
  | h1 :: h2 :: ':' :: m1 :: m2 :: ':' :: s1 :: s2 :: rest =>
    match twoDigits h1 h2, twoDigits m1 m2, twoDigits s1 s2 with
    | some h, some m, some sec =>
      let rest := match rest with
        | '.' :: more =>
          let ds := more.takeWhile Char.isDigit
          if ds.isEmpty then none else some (more.drop ds.length)
        | _ => some rest
      match rest with
      | none => false
      | some zone =>
        let utcMinutes : Option Int := match zone with
          | ['Z'] | ['z'] => some ((h * 60 + m : Nat) : Int)
          | [sign, a, b, ':', c, d] =>
            match twoDigits a b, twoDigits c d with
            | some oh, some om =>
              if oh > 23 ∨ om > 59 ∨ (sign != '+' ∧ sign != '-') then none
              else
                let off : Int := (oh * 60 + om : Nat)
                some ((h * 60 + m : Nat) - (if sign = '+' then off else -off))
            | _, _ => none
          | _ => none
        match utcMinutes with
        | none => false
        | some u =>
          h ≤ 23 ∧ m ≤ 59 ∧ (sec ≤ 59 ∨ (sec = 60 ∧ u % 1440 = 1439))
    | _, _, _ => false
  | _ => false

/-- A date and a time joined by `T`. -/
def isDateTime (s : String) : Bool :=
  let cs := s.toList
  match cs.drop 10 with
  | c :: rest => (c = 'T' ∨ c = 't') ∧ isDate (String.ofList (cs.take 10)) ∧ isTime (String.ofList rest)
  | [] => false

/-- A decimal part of an IPv4 address: 0 to 255 without leading zeros. -/
def isOctet (cs : List Char) : Bool :=
  !cs.isEmpty && cs.length ≤ 3 && cs.all Char.isDigit && (cs.length == 1 || cs.head? != some '0') &&
    cs.foldl (fun n c => n * 10 + (c.toNat - 48)) 0 ≤ 255

/-- An IPv4 address in dotted decimal. -/
def isIpv4 (s : String) : Bool :=
  let parts := s.splitOn "."
  parts.length == 4 && parts.all (fun p => isOctet p.toList)

/-- A group of an IPv6 address: one to four hexadecimal digits. -/
def isHexGroup (p : String) : Bool :=
  !p.isEmpty && p.length ≤ 4 && p.toList.all (fun c => (Pattern.hexDigit c).isSome)

/-- How many 16-bit groups a run of groups stands for, the last one possibly an IPv4
address, if it is well formed. -/
def groupCount (groups : List String) (last : Bool) : Option Nat :=
  match groups.reverse with
  | [] => some 0
  | final :: _ =>
    if last && final.contains '.' then
      if isIpv4 final && (groups.dropLast).all isHexGroup then some (groups.length + 1) else none
    else if groups.all isHexGroup then some groups.length
    else none

/-- An IPv6 address: eight groups, or fewer around one `::`, the last 32 bits possibly in
dotted decimal. -/
def isIpv6 (s : String) : Bool :=
  match s.splitOn "::" with
  | [whole] =>
    match groupCount (whole.splitOn ":") true with
    | some n => n == 8
    | none => false
  | [front, back] =>
    let fs := if front.isEmpty then [] else front.splitOn ":"
    let bs := if back.isEmpty then [] else back.splitOn ":"
    match groupCount fs false, groupCount bs true with
    | some a, some b => a + b ≤ 7
    | _, _ => false
  | _ => false

/-- Whether a character may stand in a host name. -/
def hostChar (c : Char) : Bool := c.isAlphanum || c == '-'

/-- A host name: dot-separated labels of letters, digits and hyphens, each of 1 to 63
characters and not starting or ending with a hyphen, 253 characters at most. -/
def isHostname (s : String) : Bool :=
  let s := if s.endsWith "." then String.ofList (s.toList.dropLast) else s
  !s.isEmpty && s.length ≤ 253 &&
    (s.splitOn ".").all (fun l =>
      !l.isEmpty && l.length ≤ 63 && l.toList.all hostChar && !l.startsWith "-" && !l.endsWith "-")

/-- A host name that may hold letters beyond ASCII. -/
def isIdnHostname (s : String) : Bool :=
  let s := if s.endsWith "." then String.ofList (s.toList.dropLast) else s
  !s.isEmpty && (s.splitOn ".").all (fun l =>
    !l.isEmpty && l.length ≤ 63 && l.toList.all (fun c => hostChar c || c.toNat ≥ 0x80) &&
      !l.startsWith "-" && !l.endsWith "-")

/-- An e-mail address: a local part that neither starts nor ends with a dot nor holds two in
a row, an `@`, and a host name or an address in brackets. -/
def isEmailWith (host : String → Bool) (s : String) : Bool :=
  let cs := s.toList
  let at_ := cs.length - 1 - ((cs.reverse.takeWhile (· != '@')).length)
  if !cs.contains '@' then false
  else
    let local_ := cs.take at_
    let domain := String.ofList (cs.drop (at_ + 1))
    let rec dots : List Char → Bool
      | '.' :: '.' :: _ => false
      | _ :: rest => dots rest
      | [] => true
    !local_.isEmpty && local_.head? != some '.' && local_.getLast? != some '.' && dots local_ &&
      (if domain.startsWith "[" && domain.endsWith "]" then
        let inner := String.ofList ((domain.toList.drop 1).dropLast)
        if inner.startsWith "IPv6:" then isIpv6 (String.ofList (inner.toList.drop 5)) else isIpv4 inner
      else host domain)

/-- Whether a character is unreserved in a URI. -/
def unreserved (c : Char) : Bool := c.isAlphanum || c == '-' || c == '.' || c == '_' || c == '~'

/-- Whether a character is a sub-delimiter of a URI. -/
def subDelim (c : Char) : Bool := "!$&'()*+,;=".toList.contains c

/-- Whether a character may stand for itself in a URI part, given the extra characters the
part allows; beyond ASCII only for an IRI. -/
def partChar (iri : Bool) (extra : List Char) (c : Char) : Bool :=
  unreserved c || subDelim c || extra.contains c || (iri && c.toNat ≥ 0xA0)

/-- Whether a text is made of allowed characters and `%` escapes of two hexadecimal digits. -/
def encoded (ok : Char → Bool) : List Char → Bool
  | '%' :: a :: b :: rest => (Pattern.hexDigit a).isSome && (Pattern.hexDigit b).isSome && encoded ok rest
  | '%' :: _ => false
  | c :: rest => ok c && encoded ok rest
  | [] => true

/-- A URI scheme: a letter, then letters, digits, `+`, `-` and `.`. -/
def isScheme : List Char → Bool
  | c :: rest => c.isAlpha && rest.all (fun d => d.isAlphanum || d == '+' || d == '-' || d == '.')
  | [] => false

/-- An authority: optional user information and `@`, a host (a name or a bracketed
address) and an optional port. -/
def isAuthority (iri : Bool) (cs : List Char) : Bool :=
  let (user, hostPort) :=
    if cs.contains '@' then
      let n := cs.length - 1 - (cs.reverse.takeWhile (· != '@')).length
      (some (cs.take n), cs.drop (n + 1))
    else (none, cs)
  let userOk := match user with
    | some u => encoded (partChar iri [':']) u
    | none => true
  let (host, port) :=
    match hostPort with
    | '[' :: _ =>
      let inside := hostPort.takeWhile (· != ']')
      (inside ++ [']'], (hostPort.drop (inside.length + 1)))
    | _ =>
      let h := hostPort.takeWhile (· != ':')
      (h, hostPort.drop h.length)
  let hostOk := match host with
    | '[' :: rest => isIpv6 (String.ofList rest.dropLast) || (rest.head? == some 'v' || rest.head? == some 'V')
    | _ => encoded (partChar iri []) host
  let portOk := match port with
    | [] => true
    | ':' :: ds => ds.all Char.isDigit
    | _ => false
  userOk && hostOk && portOk

/-- The path, query and fragment after a scheme or at the start of a reference. -/
def isHierarchy (iri : Bool) (cs : List Char) : Bool :=
  let pathEnd := cs.takeWhile (fun c => c != '?' && c != '#')
  let after := cs.drop pathEnd.length
  let query := after.takeWhile (· != '#')
  let fragment := after.drop query.length
  let (authorityOk, path) :=
    match pathEnd with
    | '/' :: '/' :: rest =>
      let auth := rest.takeWhile (· != '/')
      (isAuthority iri auth, rest.drop auth.length)
    | _ => (true, pathEnd)
  let pathOk := encoded (partChar iri [':', '@', '/']) path
  let queryOk := match query with
    | '?' :: q => encoded (partChar iri [':', '@', '/', '?']) q
    | _ => true
  let fragmentOk := match fragment with
    | '#' :: f => encoded (partChar iri [':', '@', '/', '?']) f
    | _ => true
  authorityOk && pathOk && queryOk && fragmentOk

/-- An absolute URI (or IRI): a scheme, `:`, and the rest. -/
def isUriWith (iri : Bool) (s : String) : Bool :=
  let cs := s.toList
  let scheme := cs.takeWhile (· != ':')
  scheme.length < cs.length && isScheme scheme && isHierarchy iri (cs.drop (scheme.length + 1))

/-- A URI (or IRI) reference: a URI, or a relative reference whose first segment has no `:`. -/
def isReferenceWith (iri : Bool) (s : String) : Bool :=
  isUriWith iri s ||
    (let cs := s.toList
     let first := cs.takeWhile (fun c => c != '/' && c != '?' && c != '#')
     !first.contains ':' && isHierarchy iri cs)

/-- A URI template: literals and expressions `{op var,var:3,var*}`. -/
def isUriTemplate (s : String) : Bool :=
  let literalOk (c : Char) : Bool :=
    !(c.toNat ≤ 0x20 || "\"'<>\\^`\x7b|\x7d".toList.contains c)
  let varOk (v : List Char) : Bool :=
    let (name, modifier) := match v.reverse with
      | '*' :: rest => (rest.reverse, true)
      | _ =>
        let n := v.takeWhile (· != ':')
        (n, n.length == v.length ||
          (let ds := v.drop (n.length + 1)
           !ds.isEmpty && ds.length ≤ 4 && ds.all Char.isDigit && ds.head? != some '0'))
    modifier && !name.isEmpty && encoded (fun c => c.isAlphanum || c == '_' || c == '.') name &&
      name.head? != some '.' && name.getLast? != some '.'
  let rec go : Nat → List Char → Bool
    | 0, _ => false
    | _ + 1, [] => true
    | fuel + 1, '{' :: rest =>
      let body := rest.takeWhile (· != '}')
      if body.length == rest.length then false
      else
        let body := match body with
          | c :: more => if "+#./;?&=,!@|".toList.contains c then more else c :: more
          | [] => []
        !body.isEmpty && (String.ofList body |>.splitOn ",").all (fun v => varOk v.toList) &&
          go fuel (rest.drop (rest.takeWhile (· != '}')).length |>.drop 1)
    | fuel + 1, '%' :: a :: b :: rest =>
      (Pattern.hexDigit a).isSome && (Pattern.hexDigit b).isSome && go fuel rest
    | fuel + 1, c :: rest => literalOk c && go fuel rest
  go (s.length + 1) s.toList

/-- A JSON pointer: empty, or `/`-separated tokens in which `~` is followed by `0` or `1`. -/
def isJsonPointer (s : String) : Bool :=
  let rec tildes : List Char → Bool
    | '~' :: c :: rest => (c == '0' || c == '1') && tildes rest
    | '~' :: [] => false
    | _ :: rest => tildes rest
    | [] => true
  (s.isEmpty || s.startsWith "/") && tildes s.toList

/-- A relative JSON pointer: a number without leading zeros, then `#` or a JSON pointer. -/
def isRelativeJsonPointer (s : String) : Bool :=
  let cs := s.toList
  let ds := cs.takeWhile Char.isDigit
  let rest := String.ofList (cs.drop ds.length)
  !ds.isEmpty && (ds.length == 1 || ds.head? != some '0') && (rest == "#" || isJsonPointer rest)

/-- Whether a string has the format a draft checks by a name; `none` when the draft checks
no format of that name. -/
def holds (draft : Draft) (name : String) (s : String) : Option Bool :=
  match name with
  | "date" => some (isDate s)
  | "time" => some (isTime s)
  | "date-time" => some (isDateTime s)
  | "email" => some (isEmailWith isHostname s)
  | "idn-email" => some (isEmailWith isIdnHostname s)
  | "hostname" => some (isHostname s)
  | "idn-hostname" => if draft.since .v7 then some (isIdnHostname s) else none
  | "ipv4" => some (isIpv4 s)
  | "ipv6" => some (isIpv6 s)
  | "uri" => some (isUriWith false s)
  | "uri-reference" => if draft.since .v6 then some (isReferenceWith false s) else none
  | "iri" => if draft.since .v7 then some (isUriWith true s) else none
  | "iri-reference" => if draft.since .v7 then some (isReferenceWith true s) else none
  | "uri-template" => if draft.since .v6 then some (isUriTemplate s) else none
  | "json-pointer" => if draft.since .v6 then some (isJsonPointer s) else none
  | "relative-json-pointer" => if draft.since .v7 then some (isRelativeJsonPointer s) else none
  | "regex" => some (Pattern.parse s).isSome
  | _ => none

end Format

end Schema

end JobFlow
