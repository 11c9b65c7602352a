import JobFlow.Shell.Program

/-!
# Digests and base64

`md5sum`, `sha1sum` and `sha256sum` print the digest of each file (or of standard input for
`-` or no operand) in hexadecimal, two blanks and the file's name; with `-c` they read such
lines and check each file against its digest.
-/

namespace JobFlow.Shell

namespace Digest

/-- The bytes of a byte text. -/
def bytesOf (s : String) : List UInt8 := s.toList.map (fun c => c.toNat.toUInt8)

/-- A message padded to whole blocks of 64 bytes: a one bit, zeros, and the message's length
in bits as eight bytes, most significant first when `bigEndian`. -/
def padded (bigEndian : Bool) (msg : List UInt8) : List UInt8 :=
  let zeros := (119 - msg.length % 64) % 64
  let bits := msg.length * 8
  let lenBytes := (List.range 8).map (fun i => (bits / Nat.pow 2 (8 * i) % 256).toUInt8)
  msg ++ [0x80] ++ List.replicate zeros 0 ++ (if bigEndian then lenBytes.reverse else lenBytes)

/-- The blocks of 64 bytes of a padded message. -/
def blocks (bytes : List UInt8) : List (List UInt8) :=
  (List.range (bytes.length / 64)).map (fun k => (bytes.drop (64 * k)).take 64)

/-- The 32-bit word of four bytes of a block from a byte index. -/
def word (bigEndian : Bool) (block : List UInt8) (i : Nat) : UInt32 :=
  let b (k : Nat) : UInt32 := (block.getD (i + k) 0).toUInt32
  if bigEndian then (b 0 <<< 24) ||| (b 1 <<< 16) ||| (b 2 <<< 8) ||| b 3
  else (b 3 <<< 24) ||| (b 2 <<< 16) ||| (b 1 <<< 8) ||| b 0

/-- The bytes of a word. -/
def wordBytes (bigEndian : Bool) (w : UInt32) : List UInt8 :=
  let bs := [(w >>> 24).toUInt8, (w >>> 16).toUInt8, (w >>> 8).toUInt8, w.toUInt8]
  if bigEndian then bs else bs.reverse

/-- A word rotated left. -/
def rotl (x : UInt32) (n : UInt32) : UInt32 := (x <<< n) ||| (x >>> (32 - n))

/-- A word rotated right. -/
def rotr (x : UInt32) (n : UInt32) : UInt32 := (x >>> n) ||| (x <<< (32 - n))

/-- The shifts of the rounds of MD5. -/
def md5Shifts : Array UInt32 :=
  #[7, 12, 17, 22, 7, 12, 17, 22, 7, 12, 17, 22, 7, 12, 17, 22,
    5, 9, 14, 20, 5, 9, 14, 20, 5, 9, 14, 20, 5, 9, 14, 20,
    4, 11, 16, 23, 4, 11, 16, 23, 4, 11, 16, 23, 4, 11, 16, 23,
    6, 10, 15, 21, 6, 10, 15, 21, 6, 10, 15, 21, 6, 10, 15, 21]

/-- The constants of the rounds of MD5: the integer parts of `2^32 * |sin (i + 1)|`. -/
def md5Constants : Array UInt32 :=
  #[0xd76aa478, 0xe8c7b756, 0x242070db, 0xc1bdceee, 0xf57c0faf, 0x4787c62a, 0xa8304613, 0xfd469501,
    0x698098d8, 0x8b44f7af, 0xffff5bb1, 0x895cd7be, 0x6b901122, 0xfd987193, 0xa679438e, 0x49b40821,
    0xf61e2562, 0xc040b340, 0x265e5a51, 0xe9b6c7aa, 0xd62f105d, 0x02441453, 0xd8a1e681, 0xe7d3fbc8,
    0x21e1cde6, 0xc33707d6, 0xf4d50d87, 0x455a14ed, 0xa9e3e905, 0xfcefa3f8, 0x676f02d9, 0x8d2a4c8a,
    0xfffa3942, 0x8771f681, 0x6d9d6122, 0xfde5380c, 0xa4beea44, 0x4bdecfa9, 0xf6bb4b60, 0xbebfbc70,
    0x289b7ec6, 0xeaa127fa, 0xd4ef3085, 0x04881d05, 0xd9d4d039, 0xe6db99e5, 0x1fa27cf8, 0xc4ac5665,
    0xf4292244, 0x432aff97, 0xab9423a7, 0xfc93a039, 0x655b59c3, 0x8f0ccc92, 0xffeff47d, 0x85845dd1,
    0x6fa87e4f, 0xfe2ce6e0, 0xa3014314, 0x4e0811a1, 0xf7537e82, 0xbd3af235, 0x2ad7d2bb, 0xeb86d391]

/-- One block folded into the state of MD5. -/
def md5Block (h : Array UInt32) (block : List UInt8) : Array UInt32 :=
  let m := (List.range 16).map (fun i => word false block (4 * i))
  let (a, b, c, d) := (List.range 64).foldl (fun (a, b, c, d) (i : Nat) =>
    let (f, g) :=
      if i < 16 then ((b &&& c) ||| (~~~b &&& d), i)
      else if i < 32 then ((d &&& b) ||| (~~~d &&& c), (5 * i + 1) % 16)
      else if i < 48 then (b ^^^ c ^^^ d, (3 * i + 5) % 16)
      else (c ^^^ (b ||| ~~~d), 7 * i % 16)
    let f := f + a + md5Constants.getD i 0 + m.getD g 0
    (d, b + rotl f (md5Shifts.getD i 0), b, c)) (h.getD 0 0, h.getD 1 0, h.getD 2 0, h.getD 3 0)
  #[h.getD 0 0 + a, h.getD 1 0 + b, h.getD 2 0 + c, h.getD 3 0 + d]

/-- One block folded into the state of SHA-1. -/
def sha1Block (h : Array UInt32) (block : List UInt8) : Array UInt32 :=
  let w0 := ((List.range 16).map (fun i => word true block (4 * i))).toArray
  let w := (List.range 64).foldl (fun (w : Array UInt32) (k : Nat) =>
    let t := k + 16
    w.push (rotl (w.getD (t - 3) 0 ^^^ w.getD (t - 8) 0 ^^^ w.getD (t - 14) 0 ^^^ w.getD (t - 16) 0) 1)) w0
  let (a, b, c, d, e) := (List.range 80).foldl (fun (a, b, c, d, e) (i : Nat) =>
    let (f, k) : UInt32 × UInt32 :=
      if i < 20 then ((b &&& c) ||| (~~~b &&& d), 0x5A827999)
      else if i < 40 then (b ^^^ c ^^^ d, 0x6ED9EBA1)
      else if i < 60 then ((b &&& c) ||| (b &&& d) ||| (c &&& d), 0x8F1BBCDC)
      else (b ^^^ c ^^^ d, 0xCA62C1D6)
    (rotl a 5 + f + e + k + w.getD i 0, a, rotl b 30, c, d))
    (h.getD 0 0, h.getD 1 0, h.getD 2 0, h.getD 3 0, h.getD 4 0)
  #[h.getD 0 0 + a, h.getD 1 0 + b, h.getD 2 0 + c, h.getD 3 0 + d, h.getD 4 0 + e]

/-- The constants of the rounds of SHA-256: the first 32 bits of the fractional parts of the
cube roots of the first 64 primes. -/
def sha256Constants : Array UInt32 :=
  #[0x428a2f98, 0x71374491, 0xb5c0fbcf, 0xe9b5dba5, 0x3956c25b, 0x59f111f1, 0x923f82a4, 0xab1c5ed5,
    0xd807aa98, 0x12835b01, 0x243185be, 0x550c7dc3, 0x72be5d74, 0x80deb1fe, 0x9bdc06a7, 0xc19bf174,
    0xe49b69c1, 0xefbe4786, 0x0fc19dc6, 0x240ca1cc, 0x2de92c6f, 0x4a7484aa, 0x5cb0a9dc, 0x76f988da,
    0x983e5152, 0xa831c66d, 0xb00327c8, 0xbf597fc7, 0xc6e00bf3, 0xd5a79147, 0x06ca6351, 0x14292967,
    0x27b70a85, 0x2e1b2138, 0x4d2c6dfc, 0x53380d13, 0x650a7354, 0x766a0abb, 0x81c2c92e, 0x92722c85,
    0xa2bfe8a1, 0xa81a664b, 0xc24b8b70, 0xc76c51a3, 0xd192e819, 0xd6990624, 0xf40e3585, 0x106aa070,
    0x19a4c116, 0x1e376c08, 0x2748774c, 0x34b0bcb5, 0x391c0cb3, 0x4ed8aa4a, 0x5b9cca4f, 0x682e6ff3,
    0x748f82ee, 0x78a5636f, 0x84c87814, 0x8cc70208, 0x90befffa, 0xa4506ceb, 0xbef9a3f7, 0xc67178f2]

/-- One block folded into the state of SHA-256. -/
def sha256Block (h : Array UInt32) (block : List UInt8) : Array UInt32 :=
  let w0 := ((List.range 16).map (fun i => word true block (4 * i))).toArray
  let w := (List.range 48).foldl (fun (w : Array UInt32) (k : Nat) =>
    let t := k + 16
    let x := w.getD (t - 15) 0
    let y := w.getD (t - 2) 0
    let s0 := rotr x 7 ^^^ rotr x 18 ^^^ (x >>> 3)
    let s1 := rotr y 17 ^^^ rotr y 19 ^^^ (y >>> 10)
    w.push (w.getD (t - 16) 0 + s0 + w.getD (t - 7) 0 + s1)) w0
  let start := (h.getD 0 0, h.getD 1 0, h.getD 2 0, h.getD 3 0, h.getD 4 0, h.getD 5 0, h.getD 6 0, h.getD 7 0)
  let (a, b, c, d, e, f, g, hh) := (List.range 64).foldl (fun (a, b, c, d, e, f, g, hh) (i : Nat) =>
    let s1 := rotr e 6 ^^^ rotr e 11 ^^^ rotr e 25
    let ch := (e &&& f) ^^^ (~~~e &&& g)
    let t1 := hh + s1 + ch + sha256Constants.getD i 0 + w.getD i 0
    let s0 := rotr a 2 ^^^ rotr a 13 ^^^ rotr a 22
    let maj := (a &&& b) ^^^ (a &&& c) ^^^ (b &&& c)
    let t2 := s0 + maj
    (t1 + t2, a, b, c, d + t1, e, f, g)) start
  #[h.getD 0 0 + a, h.getD 1 0 + b, h.getD 2 0 + c, h.getD 3 0 + d, h.getD 4 0 + e,
    h.getD 5 0 + f, h.getD 6 0 + g, h.getD 7 0 + hh]

/-- A digest algorithm: its byte order, starting state and compression step. -/
structure Algorithm where
  bigEndian : Bool
  initial : Array UInt32
  step : Array UInt32 → List UInt8 → Array UInt32

/-- MD5. -/
def md5 : Algorithm :=
  { bigEndian := false, initial := #[0x67452301, 0xefcdab89, 0x98badcfe, 0x10325476], step := md5Block }

/-- SHA-1. -/
def sha1 : Algorithm :=
  { bigEndian := true, initial := #[0x67452301, 0xEFCDAB89, 0x98BADCFE, 0x10325476, 0xC3D2E1F0],
    step := sha1Block }

/-- SHA-256. -/
def sha256 : Algorithm :=
  { bigEndian := true,
    initial := #[0x6a09e667, 0xbb67ae85, 0x3c6ef372, 0xa54ff53a, 0x510e527f, 0x9b05688c, 0x1f83d9ab, 0x5be0cd19],
    step := sha256Block }

/-- The digest of a message as bytes. -/
def Algorithm.digest (a : Algorithm) (msg : List UInt8) : List UInt8 :=
  let state := (blocks (padded a.bigEndian msg)).foldl a.step a.initial
  state.toList.flatMap (wordBytes a.bigEndian)

/-- Bytes in lowercase hexadecimal. -/
def hex (bytes : List UInt8) : String :=
  let digit (n : Nat) : Char := if n < 10 then Char.ofNat (48 + n) else Char.ofNat (87 + n)
  String.ofList (bytes.flatMap (fun b => [digit (b.toNat / 16), digit (b.toNat % 16)]))

/-- The base64 alphabet. -/
def alphabet : Array Char :=
  "ABCDEFGHIJKLMNOPQRSTUVWXYZabcdefghijklmnopqrstuvwxyz0123456789+/".toList.toArray

/-- Bytes in base64, padded with `=` to whole groups of four. -/
def encode64 (bytes : List UInt8) : String :=
  let groups := (List.range ((bytes.length + 2) / 3)).map (fun k => (bytes.drop (3 * k)).take 3)
  String.join (groups.map (fun g =>
    let n := g.foldl (fun acc b => acc * 256 + b.toNat) 0 * Nat.pow 256 (3 - g.length)
    let chars := (List.range 4).map (fun i => alphabet.getD (n / Nat.pow 64 (3 - i) % 64) '=')
    String.ofList (chars.take (g.length + 1) ++ List.replicate (3 - g.length) '=')))

/-- The value of a base64 character. -/
def value64 (c : Char) : Option Nat :=
  if 'A' ≤ c ∧ c ≤ 'Z' then some (c.toNat - 65)
  else if 'a' ≤ c ∧ c ≤ 'z' then some (c.toNat - 71)
  else if '0' ≤ c ∧ c ≤ '9' then some (c.toNat + 4)
  else if c = '+' then some 62
  else if c = '/' then some 63
  else none

/-- Base64 text decoded, line breaks ignored: the bytes of the whole groups of four before the
first fault, and whether there was one (a character outside the alphabet, or a group cut
short). -/
def decode64 (text : String) : List UInt8 × Bool :=
  let cs := text.toList.filter (· != '\n')
  let rec go : Nat → List Char → List UInt8 → List UInt8 × Bool
    | 0, _, acc => (acc, false)
    | _ + 1, [], acc => (acc, false)
    | n + 1, cs, acc =>
      let g := cs.take 4
      let pads := (g.reverse.takeWhile (· = '=')).length
      let body := g.take (g.length - pads)
      let vals := body.filterMap value64
      if g.length < 4 ∨ vals.length != body.length ∨ pads > 2 then (acc, true)
      else
        let v := vals.foldl (fun a x => a * 64 + x) 0 * Nat.pow 64 pads
        let bytes := ((List.range 3).map (fun i => (v / Nat.pow 256 (2 - i) % 256).toUInt8)).take (3 - pads)
        let rest := cs.drop 4
        if pads > 0 ∧ !rest.isEmpty then (acc ++ bytes, true)
        else go n rest (acc ++ bytes)
  go (cs.length + 1) cs []

end Digest

namespace Tools

/-- A file name as the digest programs write it: a name with a backslash or a newline gets a
backslash before the line and has those characters escaped. -/
def digestName (name : String) : String × String :=
  if name.contains '\\' ∨ name.contains '\n' then
    ("\\", String.join (name.toList.map (fun c =>
      if c = '\\' then "\\\\" else if c = '\n' then "\\n" else c.toString)))
  else ("", name)

/-- `md5sum`, `sha1sum` and `sha256sum`: the digest of each file, or with `-c` the check of
the files that lines of digests name. -/
def digestSum (alg : Digest.Algorithm) (c : Call) : Program Unit := do
  let spec : OptionSpec :=
    { flags := ['c', 'b', 't', 'z', 'w'],
      long := [("check", 'c', false), ("binary", 'b', false), ("text", 't', false),
      ("quiet", 'q', false), ("status", 's', false), ("strict", 'x', false)] }
  match parseOptions spec c.args with
  | .error f => c.optionFault f
  | .ok (opts, ops) =>
    let files := if ops.isEmpty then ["-"] else ops
    if !hasOpt opts 'c' then
      for f in files do
        match ← c.readOperand f with
        | .error e => Program.warn c (f ++ ": " ++ e)
        | .ok text =>
          let (lead, shown) := digestName f
          Program.out (lead ++ Digest.hex (alg.digest (Digest.bytesOf text)) ++ "  " ++ shown ++ "\n")
    else
      let mut failed := 0
      let mut unreadable := 0
      let mut bad := 0
      for f in files do
        match ← c.readOperand f with
        | .error e => Program.warn c (f ++ ": " ++ e)
        | .ok text =>
          for line in (linesOf text).map chomp do
            let hexLen := 2 * (alg.digest []).length
            let h := String.ofList (line.toList.take hexLen)
            let rest := line.toList.drop hexLen
            match rest with
            | ' ' :: m :: name =>
              if m != ' ' ∧ m != '*' then bad := bad + 1
              else
                let name := String.ofList name
                match ← c.readOperand name with
                | .error e =>
                  Program.err (c.name ++ ": " ++ name ++ ": " ++ e ++ "\n")
                  Program.out (name ++ ": FAILED open or read\n")
                  unreadable := unreadable + 1
                | .ok body =>
                  if Digest.hex (alg.digest (Digest.bytesOf body)) == h.toLower then
                    Program.out (name ++ ": OK\n")
                  else
                    Program.out (name ++ ": FAILED\n")
                    failed := failed + 1
            | _ => bad := bad + 1
      if bad > 0 then
        Program.err (c.name ++ ": WARNING: " ++ toString bad ++ " line" ++ (if bad = 1 then " is" else "s are") ++ " improperly formatted\n")
      if unreadable > 0 then
        Program.err (c.name ++ ": WARNING: " ++ toString unreadable ++ " listed file" ++ (if unreadable = 1 then "" else "s") ++ " could not be read\n")
      if failed > 0 then
        Program.err (c.name ++ ": WARNING: " ++ toString failed ++ " computed checksum" ++ (if failed = 1 then "" else "s") ++ " did NOT match\n")
      if failed + unreadable > 0 then Program.exitWith 1

/-- `base64`: encodes standard input or a file, or with `-d` decodes it. -/
def base64 (c : Call) : Program Unit := do
  let spec : OptionSpec :=
    { withArg := ['w'], flags := ['d', 'i'],
      long := [("decode", 'd', false), ("ignore-garbage", 'i', false), ("wrap", 'w', true)] }
  match parseOptions spec c.args with
  | .error f => c.optionFault f
  | .ok (opts, ops) =>
    match ops with
    | _ :: extra :: _ =>
      Program.err (c.name ++ ": extra operand " ++ quoteName extra ++ "\nTry '" ++ c.name ++ " --help' for more information.\n")
      Program.exitWith 1
    | _ =>
      let f := ops.headD "-"
      let wrap := ((optArg? opts 'w').bind String.toNat?).getD 76
      match (optArg? opts 'w') with
      | some w =>
        if w.toNat?.isNone then
          Program.err (c.name ++ ": invalid wrap size: " ++ quoteName w ++ "\n")
          Program.exitWith 1
          return
      | none => pure ()
      match ← c.readOperand f with
      | .error e => Program.warn c (f ++ ": " ++ e)
      | .ok text =>
        if hasOpt opts 'd' then
          let text := if hasOpt opts 'i' then String.ofList (text.toList.filter (fun ch => (Digest.value64 ch).isSome ∨ ch = '=')) else text
          let (bytes, fault) := Digest.decode64 text
          Program.out (String.ofList (bytes.map (fun b => Char.ofNat b.toNat)))
          if fault then
            Program.err (c.name ++ ": invalid input\n")
            Program.exitWith 1
        else
          let enc := Digest.encode64 (Digest.bytesOf text)
          if enc.isEmpty then pure ()
          else if wrap = 0 then Program.out enc
          else
            let cs := enc.toList
            let rows := (List.range ((cs.length + wrap - 1) / wrap)).map (fun k => String.ofList ((cs.drop (wrap * k)).take wrap))
            Program.out (String.join (rows.map (· ++ "\n")))

end Tools

end JobFlow.Shell
