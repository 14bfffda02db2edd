/-
**Case folding.**

Characters that differ only in case fold to the same character.  The simple folding of single
characters is kept as runs: a first code point, how many there are, the step from one to the next,
and the distance from each to what it folds to.

Main definitions:

* `Unicode.Folding` — a run of characters that fold over one distance;
* `Unicode.foldings` — all runs;
* `Unicode.foldPairs` — all pairs of a character and another one that it folds to;
* `Unicode.foldClosure` — a class together with all characters that differ from one of its own only
  in case.
-/

import ProvenShapes.Unicode.Category

set_option autoImplicit false

namespace ProvenShapes.Unicode

/-- A run of code points that fold over the same distance. -/
structure Folding where
  first : Nat
  count : Nat
  step : Nat
  distance : Int

/-- The run of a word `first:count:step:distance`. -/
def Folding.ofText (word : String) : Folding :=
  match word.splitOn ":" with
  | [first, count, step, distance] =>
      let size : Int := natOfHex (distance.toList.drop 1)
      { first := natOfHex first.toList
        count := natOfHex count.toList
        step := natOfHex step.toList
        distance := if distance.toList.head? == some '-' then -size else size }
  | _ => ⟨0, 0, 1, 0⟩

/-- The runs of characters that fold to another one. -/
def foldings : List Folding :=
  (words "41:1A:1:+20 B5:1:1:+307 C0:17:1:+20 D8:7:1:+20 100:18:2:+1 132:3:2:+1 139:8:2:+1
  14A:17:2:+1 178:1:1:-79 179:3:2:+1 17F:1:1:-10C 181:1:1:+D2 182:2:2:+1 186:1:1:+CE 187:1:1:+1
  189:2:1:+CD 18B:1:1:+1 18E:1:1:+4F 18F:1:1:+CA 190:1:1:+CB 191:1:1:+1 193:1:1:+CD 194:1:1:+CF
  196:1:1:+D3 197:1:1:+D1 198:1:1:+1 19C:1:1:+D3 19D:1:1:+D5 19F:1:1:+D6 1A0:3:2:+1 1A6:1:1:+DA
  1A7:1:1:+1 1A9:1:1:+DA 1AC:1:1:+1 1AE:1:1:+DA 1AF:1:1:+1 1B1:2:1:+D9 1B3:2:2:+1 1B7:1:1:+DB
  1B8:1:1:+1 1BC:1:1:+1 1C4:1:1:+2 1C5:1:1:+1 1C7:1:1:+2 1C8:1:1:+1 1CA:1:1:+2 1CB:9:2:+1
  1DE:9:2:+1 1F1:1:1:+2 1F2:2:2:+1 1F6:1:1:-61 1F7:1:1:-38 1F8:14:2:+1 220:1:1:-82 222:9:2:+1
  23A:1:1:+2A2B 23B:1:1:+1 23D:1:1:-A3 23E:1:1:+2A28 241:1:1:+1 243:1:1:-C3 244:1:1:+45
  245:1:1:+47 246:5:2:+1 345:1:1:+74 370:2:2:+1 376:1:1:+1 37F:1:1:+74 386:1:1:+26 388:3:1:+25
  38C:1:1:+40 38E:2:1:+3F 391:11:1:+20 3A3:9:1:+20 3C2:1:1:+1 3CF:1:1:+8 3D0:1:1:-1E 3D1:1:1:-19
  3D5:1:1:-F 3D6:1:1:-16 3D8:C:2:+1 3F0:1:1:-36 3F1:1:1:-30 3F4:1:1:-3C 3F5:1:1:-40 3F7:1:1:+1
  3F9:1:1:-7 3FA:1:1:+1 3FD:3:1:-82 400:10:1:+50 410:20:1:+20 460:11:2:+1 48A:1B:2:+1 4C0:1:1:+F
  4C1:7:2:+1 4D0:30:2:+1 531:26:1:+30 10A0:26:1:+1C60 10C7:1:1:+1C60 10CD:1:1:+1C60 13F8:6:1:-8
  1C80:1:1:-184E 1C81:1:1:-184D 1C82:1:1:-1844 1C83:2:1:-1842 1C85:1:1:-1843 1C86:1:1:-183C
  1C87:1:1:-1824 1C88:1:1:+89C3 1C89:1:1:+1 1C90:2B:1:-BC0 1CBD:3:1:-BC0 1E00:4B:2:+1
  1E9B:1:1:-3A 1E9E:1:1:-1DBF 1EA0:30:2:+1 1F08:8:1:-8 1F18:6:1:-8 1F28:8:1:-8 1F38:8:1:-8
  1F48:6:1:-8 1F59:4:2:-8 1F68:8:1:-8 1F88:8:1:-8 1F98:8:1:-8 1FA8:8:1:-8 1FB8:2:1:-8
  1FBA:2:1:-4A 1FBC:1:1:-9 1FBE:1:1:-1C05 1FC8:4:1:-56 1FCC:1:1:-9 1FD3:1:1:-1C43 1FD8:2:1:-8
  1FDA:2:1:-64 1FE3:1:1:-1C33 1FE8:2:1:-8 1FEA:2:1:-70 1FEC:1:1:-7 1FF8:2:1:-80 1FFA:2:1:-7E
  1FFC:1:1:-9 2126:1:1:-1D5D 212A:1:1:-20BF 212B:1:1:-2046 2132:1:1:+1C 2160:10:1:+10
  2183:1:1:+1 24B6:1A:1:+1A 2C00:30:1:+30 2C60:1:1:+1 2C62:1:1:-29F7 2C63:1:1:-EE6
  2C64:1:1:-29E7 2C67:3:2:+1 2C6D:1:1:-2A1C 2C6E:1:1:-29FD 2C6F:1:1:-2A1F 2C70:1:1:-2A1E
  2C72:1:1:+1 2C75:1:1:+1 2C7E:2:1:-2A3F 2C80:32:2:+1 2CEB:2:2:+1 2CF2:1:1:+1 A640:17:2:+1
  A680:E:2:+1 A722:7:2:+1 A732:1F:2:+1 A779:2:2:+1 A77D:1:1:-8A04 A77E:5:2:+1 A78B:1:1:+1
  A78D:1:1:-A528 A790:2:2:+1 A796:A:2:+1 A7AA:1:1:-A544 A7AB:1:1:-A54F A7AC:1:1:-A54B
  A7AD:1:1:-A541 A7AE:1:1:-A544 A7B0:1:1:-A512 A7B1:1:1:-A52A A7B2:1:1:-A515 A7B3:1:1:+3A0
  A7B4:8:2:+1 A7C4:1:1:-30 A7C5:1:1:-A543 A7C6:1:1:-8A38 A7C7:2:2:+1 A7CB:1:1:-A567 A7CC:1:1:+1
  A7D0:1:1:+1 A7D6:3:2:+1 A7DC:1:1:-A641 A7F5:1:1:+1 AB70:50:1:-97D0 FB05:1:1:+1 FF21:1A:1:+20
  10400:28:1:+28 104B0:24:1:+28 10570:B:1:+27 1057C:F:1:+27 1058C:7:1:+27 10594:2:1:+27
  10C80:33:1:+40 10D50:16:1:+20 118A0:20:1:+20 16E40:20:1:+20 1E900:22:1:+22").map Folding.ofText

/-- All pairs of a code point and another one that it folds to. -/
def foldPairs : List (Nat × Nat) :=
  foldings.flatMap fun f =>
    (List.range f.count).map fun i =>
      let n := f.first + i * f.step
      (n, ((n : Int) + f.distance).toNat)

/-- A class together with all characters that differ from one of its own only in case: first what
its characters fold to, then all that folds to a character of the class. -/
def foldClosure (s : CharClass) : CharClass :=
  let down := foldPairs.filterMap fun p => if s.containsCode p.1 then some (p.2, p.2) else none
  let folded := s ++ ⟨down⟩
  let up := foldPairs.filterMap fun p => if folded.containsCode p.2 then some (p.1, p.1) else none
  (folded ++ ⟨up⟩).normal

end ProvenShapes.Unicode
