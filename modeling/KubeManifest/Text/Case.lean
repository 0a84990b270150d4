import KubeManifest.Text.Combining

/-!
# Lower case

* `Text.lowerChar` : the lower case of a letter of any script (Unicode 14);
* `Text.lower` : the lower case of a text. Two letters follow rules of their own: the dotted
  capital I becomes two characters, and a capital sigma that ends a word takes its final form.
-/

namespace KubeManifest.Text

/-- A run of capitals whose lower case lies at one distance. -/
structure CaseRun where
  first : Nat
  last : Nat
  stride : Nat
  shift : Int

def signedNumber (digits : List Char) : Int :=
  match digits with
  | '-' :: ds => -CharSet.decimalNumber ds
  | ds => CharSet.decimalNumber ds

/-- One written run: `41-5A:32` or `100-12E/2:1`. -/
def CaseRun.ofHex (word : List Char) : CaseRun :=
  let (place, shift) := word.span (· != ':')
  let (range, stride) := place.span (· != '/')
  let (first, last) := CharSet.range range
  ⟨first, last, if stride.isEmpty then 1 else 2, signedNumber (shift.drop 1)⟩

def CaseRun.contains (r : CaseRun) (n : Nat) : Bool :=
  r.first ≤ n && n ≤ r.last && (n - r.first) % r.stride == 0

def capitals : List CaseRun := (CharSet.words <|
  "41-5A:32 C0-D6:32 D8-DE:32 100-12E/2:1 132-136/2:1 139-147/2:1 14A-176/2:1 178:-121 179-17D/2:1 181:210 " ++
  "182-184/2:1 186:206 187:1 189-18A:205 18B:1 18E:79 18F:202 190:203 191:1 193:205 194:207 196:211 " ++
  "197:209 198:1 19C:211 19D:213 19F:214 1A0-1A4/2:1 1A6:218 1A7:1 1A9:218 1AC:1 1AE:218 1AF:1 1B1-1B2:217 " ++
  "1B3-1B5/2:1 1B7:219 1B8:1 1BC:1 1C4:2 1C5:1 1C7:2 1C8:1 1CA:2 1CB-1DB/2:1 1DE-1EE/2:1 1F1:2 1F2-1F4/2:1 " ++
  "1F6:-97 1F7:-56 1F8-21E/2:1 220:-130 222-232/2:1 23A:10795 23B:1 23D:-163 23E:10792 241:1 243:-195 " ++
  "244:69 245:71 246-24E/2:1 370-372/2:1 376:1 37F:116 386:38 388-38A:37 38C:64 38E-38F:63 391-3A1:32 " ++
  "3A3-3AB:32 3CF:8 3D8-3EE/2:1 3F4:-60 3F7:1 3F9:-7 3FA:1 3FD-3FF:-130 400-40F:80 410-42F:32 460-480/2:1 " ++
  "48A-4BE/2:1 4C0:15 4C1-4CD/2:1 4D0-52E/2:1 531-556:48 10A0-10C5:7264 10C7:7264 10CD:7264 " ++
  "13A0-13EF:38864 13F0-13F5:8 1C90-1CBA:-3008 1CBD-1CBF:-3008 1E00-1E94/2:1 1E9E:-7615 1EA0-1EFE/2:1 " ++
  "1F08-1F0F:-8 1F18-1F1D:-8 1F28-1F2F:-8 1F38-1F3F:-8 1F48-1F4D:-8 1F59-1F5F/2:-8 1F68-1F6F:-8 " ++
  "1F88-1F8F:-8 1F98-1F9F:-8 1FA8-1FAF:-8 1FB8-1FB9:-8 1FBA-1FBB:-74 1FBC:-9 1FC8-1FCB:-86 1FCC:-9 " ++
  "1FD8-1FD9:-8 1FDA-1FDB:-100 1FE8-1FE9:-8 1FEA-1FEB:-112 1FEC:-7 1FF8-1FF9:-128 1FFA-1FFB:-126 1FFC:-9 " ++
  "2126:-7517 212A:-8383 212B:-8262 2132:28 2160-216F:16 2183:1 24B6-24CF:26 2C00-2C2F:48 2C60:1 " ++
  "2C62:-10743 2C63:-3814 2C64:-10727 2C67-2C6B/2:1 2C6D:-10780 2C6E:-10749 2C6F:-10783 2C70:-10782 2C72:1 " ++
  "2C75:1 2C7E-2C7F:-10815 2C80-2CE2/2:1 2CEB-2CED/2:1 2CF2:1 A640-A66C/2:1 A680-A69A/2:1 A722-A72E/2:1 " ++
  "A732-A76E/2:1 A779-A77B/2:1 A77D:-35332 A77E-A786/2:1 A78B:1 A78D:-42280 A790-A792/2:1 A796-A7A8/2:1 " ++
  "A7AA:-42308 A7AB:-42319 A7AC:-42315 A7AD:-42305 A7AE:-42308 A7B0:-42258 A7B1:-42282 A7B2:-42261 " ++
  "A7B3:928 A7B4-A7C2/2:1 A7C4:-48 A7C5:-42307 A7C6:-35384 A7C7-A7C9/2:1 A7D0:1 A7D6-A7D8/2:1 A7F5:1 " ++
  "FF21-FF3A:32 10400-10427:40 104B0-104D3:40 10570-1057A:39 1057C-1058A:39 1058C-10592:39 10594-10595:39 " ++
  "10C80-10CB2:64 118A0-118BF:32 16E40-16E5F:32 1E900-1E921:34").map CaseRun.ofHex

def lowerChar (c : Char) : Char :=
  if c.toNat < 128 then c.toLower
  else
    match capitals.find? (·.contains c.toNat) with
    | some r => Char.ofNat (Int.toNat (c.toNat + r.shift))
    | none => c

/-- The characters that are small letters, capitals or title letters, with a partner or not. -/
def casedChars : CharSet := .ofHex <|
  "41-5A 61-7A AA B5 BA C0-D6 D8-F6 F8-1BA 1BC-1BF 1C4-293 295-2B8 2C0-2C1 2E0-2E4 345 370-373 376-377 37A-37D " ++
  "37F 386 388-38A 38C 38E-3A1 3A3-3F5 3F7-481 48A-52F 531-556 560-588 10A0-10C5 10C7 10CD 10D0-10FA 10FD-10FF " ++
  "13A0-13F5 13F8-13FD 1C80-1C88 1C90-1CBA 1CBD-1CBF 1D00-1DBF 1E00-1F15 1F18-1F1D 1F20-1F45 1F48-1F4D " ++
  "1F50-1F57 1F59 1F5B 1F5D 1F5F-1F7D 1F80-1FB4 1FB6-1FBC 1FBE 1FC2-1FC4 1FC6-1FCC 1FD0-1FD3 1FD6-1FDB " ++
  "1FE0-1FEC 1FF2-1FF4 1FF6-1FFC 2071 207F 2090-209C 2102 2107 210A-2113 2115 2119-211D 2124 2126 2128 " ++
  "212A-212D 212F-2134 2139 213C-213F 2145-2149 214E 2160-217F 2183-2184 24B6-24E9 2C00-2CE4 2CEB-2CEE " ++
  "2CF2-2CF3 2D00-2D25 2D27 2D2D A640-A66D A680-A69D A722-A787 A78B-A78E A790-A7CA A7D0-A7D1 A7D3 A7D5-A7D9 " ++
  "A7F5-A7F6 A7F8-A7FA AB30-AB5A AB5C-AB68 AB70-ABBF FB00-FB06 FB13-FB17 FF21-FF3A FF41-FF5A 10400-1044F " ++
  "104B0-104D3 104D8-104FB 10570-1057A 1057C-1058A 1058C-10592 10594-10595 10597-105A1 105A3-105B1 105B3-105B9 " ++
  "105BB-105BC 10780 10783-10785 10787-107B0 107B2-107BA 10C80-10CB2 10CC0-10CF2 118A0-118DF 16E40-16E7F " ++
  "1D400-1D454 1D456-1D49C 1D49E-1D49F 1D4A2 1D4A5-1D4A6 1D4A9-1D4AC 1D4AE-1D4B9 1D4BB 1D4BD-1D4C3 1D4C5-1D505 " ++
  "1D507-1D50A 1D50D-1D514 1D516-1D51C 1D51E-1D539 1D53B-1D53E 1D540-1D544 1D546 1D54A-1D550 1D552-1D6A5 " ++
  "1D6A8-1D6C0 1D6C2-1D6DA 1D6DC-1D6FA 1D6FC-1D714 1D716-1D734 1D736-1D74E 1D750-1D76E 1D770-1D788 1D78A-1D7A8 " ++
  "1D7AA-1D7C2 1D7C4-1D7CB 1DF00-1DF09 1DF0B-1DF1E 1E900-1E943 1F130-1F149 1F150-1F169 1F170-1F189"

/-- The characters besides combining marks that are passed over when the end of a word is looked for. -/
def passedChars : CharSet := .ofHex <|
  "27 2E 3A 5E 60 A8 AD AF B4 B7-B8 2B0-2FF 374-375 37A 384-385 387 559 55F 5F4 600-605 61C 640 6DD 6E5-6E6 " ++
  "70F 7F4-7F5 7FA 81A 824 828 888 890-891 8C9 8E2 971 E46 EC6 10FC 17D7 180E 1843 1AA7 1C78-1C7D 1D2C-1D6A " ++
  "1D78 1D9B-1DBF 1FBD 1FBF-1FC1 1FCD-1FCF 1FDD-1FDF 1FED-1FEF 1FFD-1FFE 200B-200F 2018-2019 2024 2027 " ++
  "202A-202E 2060-2064 2066-206F 2071 207F 2090-209C 2C7C-2C7D 2D6F 2E2F 3005 3031-3035 303B 309B-309E " ++
  "30FC-30FE A015 A4F8-A4FD A60C A67F A69C-A69D A700-A721 A770 A788-A78A A7F2-A7F4 A7F8-A7F9 A9CF A9E6 AA70 " ++
  "AADD AAF3-AAF4 AB5B-AB5F AB69-AB6B FBB2-FBC2 FE13 FE52 FE55 FEFF FF07 FF0E FF1A FF3E FF40 FF70 FF9E-FF9F " ++
  "FFE3 FFF9-FFFB 10780-10785 10787-107B0 107B2-107BA 110BD 110CD 13430-13438 16B40-16B43 16F93-16F9F " ++
  "16FE0-16FE1 16FE3 1AFF0-1AFF3 1AFF5-1AFFB 1AFFD-1AFFE 1BCA0-1BCA3 1D173-1D17A 1E137-1E13D 1E94B 1F3FB-1F3FF " ++
  "E0001 E0020-E007F"

/-- Whether a character is passed over when the end of a word is looked for. -/
def isCaseIgnorable (c : Char) : Bool :=
  passedChars.contains c || combiningChars.contains c

/-- Whether a letter between these two texts, the first one reversed, ends a word. -/
def endsWord (before after : List Char) : Bool :=
  ((before.dropWhile isCaseIgnorable).head?.any casedChars.contains) &&
    !((after.dropWhile isCaseIgnorable).head?.any casedChars.contains)

/-- The lower case of a text that follows another one, given reversed. -/
def lowerAfter (before : List Char) : List Char → List Char
  | [] => []
  | c :: cs =>
    let image :=
      if c == '\u0130' then ['i', '\u0307']
      else if c == '\u03a3' then [if endsWord before cs then '\u03c2' else '\u03c3']
      else [lowerChar c]
    image ++ lowerAfter (c :: before) cs

def lower (s : String) : String :=
  String.ofList (lowerAfter [] s.toList)

end KubeManifest.Text
