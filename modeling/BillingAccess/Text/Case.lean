/-
Small letters and capitals of all scripts.

A few characters have several as their capital, and the capital I with a dot has
two as its small letter.  The small sigma has a form of its own at the end of a
word.
-/
import BillingAccess.Text.Mark

namespace BillingAccess.Text

/-- The capitals of the characters outside ASCII. -/
def capitals : List Run := Run.table [
  "b5:39c df:53+53 e0-f6:c0 f8-fe:d8 ff:178 101-12f/2:100 131:49 133-137/2:132 13a-148/2:139",
  "149:2bc+4e 14b-177/2:14a 17a-17e/2:179 17f:53,243 183:182 185:184 188:187 18c:18b 192:191",
  "195:1f6 199:198,23d,a7dc 19e:220 1a1-1a5/2:1a0 1a8:1a7 1ad:1ac 1b0:1af 1b4:1b3 1b6:1b5 1b9:1b8",
  "1bd:1bc 1bf:1f7 1c5:1c4,1c4 1c8:1c7,1c7 1cb:1ca,1ca 1ce-1dc/2:1cd 1dd:18e 1df-1ef/2:1de",
  "1f0:4a+30c 1f2:1f1,1f1 1f5:1f4 1f9-21f/2:1f8 223-233/2:222 23c:23b 23f:2c7e,2c7f 242:241",
  "247-24f/2:246 250:2c6f,2c6d,2c70,181,186 256:189,18a 259:18f 25b:190,a7ab 260:193,a7ac 263:194",
  "264:a7cb,a78d,a7aa 268:197,196,a7ae,2c62,a7ad 26f:19c 271:2c6e,19d 275:19f 27d:2c64 280:1a6",
  "282:a7c5,1a9 287:a7b1,1ae,244,1b1,1b2,245 292:1b7 29d:a7b2,a7b0 345:399 371:370 373:372",
  "377:376 37b-37d:3fd 390:399+308+301 3ac:386 3ad-3af:388 3b0:3a5+308+301 3b1-3c1:391 3c2:3a3",
  "3c3-3cb:3a3 3cc:38c,38e,38f 3d0:392,398 3d5:3a6,3a0,3cf 3d9-3ef/2:3d8 3f0:39a,3a1,3f9,37f",
  "3f5:395 3f8:3f7 3fb:3fa 430-44f:410 450-45f:400 461-481/2:460 48b-4bf/2:48a 4c2-4ce/2:4c1",
  "4cf:4c0 4d1-52f/2:4d0 561-586:531 587:535+552 10d0-10fa:1c90 10fd-10ff:1cbd 13f8-13fd:13f0",
  "1c80:412,414,41e,421,422,422,42a,462,a64a 1c8a:1c89 1d79:a77d 1d7d:2c63 1d8e:a7c6",
  "1e01-1e95/2:1e00 1e96:48+331,54+308,57+30a,59+30a,41+2be,1e60 1ea1-1eff/2:1ea0 1f00-1f07:1f08",
  "1f10-1f15:1f18 1f20-1f27:1f28 1f30-1f37:1f38 1f40-1f45:1f48 1f50:3a5+313 1f51-1f57/2:1f59",
  "1f52:3a5+313+300 1f54:3a5+313+301 1f56:3a5+313+342 1f60-1f67:1f68 1f70:1fba,1fbb",
  "1f72-1f75:1fc8 1f76:1fda,1fdb,1ff8,1ff9,1fea,1feb,1ffa,1ffb 1f80:1f08+399,1f09+399,1f0a+399",
  "1f83:1f0b+399,1f0c+399,1f0d+399,1f0e+399,1f0f+399,1f08+399,1f09+399,1f0a+399,1f0b+399,1f0c+399",
  "1f8d:1f0d+399,1f0e+399,1f0f+399,1f28+399,1f29+399,1f2a+399,1f2b+399,1f2c+399,1f2d+399,1f2e+399",
  "1f97:1f2f+399,1f28+399,1f29+399,1f2a+399,1f2b+399,1f2c+399,1f2d+399,1f2e+399,1f2f+399,1f68+399",
  "1fa1:1f69+399,1f6a+399,1f6b+399,1f6c+399,1f6d+399,1f6e+399,1f6f+399,1f68+399,1f69+399,1f6a+399",
  "1fab:1f6b+399,1f6c+399,1f6d+399,1f6e+399,1f6f+399,1fb8,1fb9,1fba+399,391+399,386+399",
  "1fb6:391+342,391+342+399 1fbc:391+399 1fbe:399 1fc2:1fca+399,397+399,389+399 1fc6:397+342",
  "1fc7:397+342+399 1fcc:397+399 1fd0:1fd8,1fd9,399+308+300,399+308+301 1fd6:399+342,399+308+342",
  "1fe0:1fe8,1fe9,3a5+308+300,3a5+308+301,3a1+313,1fec,3a5+342,3a5+308+342 1ff2:1ffa+399,3a9+399",
  "1ff4:38f+399 1ff6:3a9+342,3a9+342+399 1ffc:3a9+399 214e:2132 2170-217f:2160 2184:2183",
  "24d0-24e9:24b6 2c30-2c5f:2c00 2c61:2c60 2c65:23a,23e 2c68-2c6c/2:2c67 2c73:2c72 2c76:2c75",
  "2c81-2ce3/2:2c80 2cec:2ceb 2cee:2ced 2cf3:2cf2 2d00-2d25:10a0 2d27:10c7 2d2d:10cd",
  "a641-a66d/2:a640 a681-a69b/2:a680 a723-a72f/2:a722 a733-a76f/2:a732 a77a:a779 a77c:a77b",
  "a77f-a787/2:a77e a78c:a78b a791:a790 a793:a792,a7c4 a797-a7a9/2:a796 a7b5-a7c3/2:a7b4",
  "a7c8:a7c7 a7ca:a7c9 a7cd-a7db/2:a7cc a7f6:a7f5 ab53:a7b3 ab70-abbf:13a0 fb00:46+46,46+49,46+4c",
  "fb03:46+46+49,46+46+4c,53+54,53+54 fb13:544+546,544+535,544+53b,54e+546,544+53d ff41-ff5a:ff21",
  "10428-1044f:10400 104d8-104fb:104b0 10597-105a1:10570 105a3-105b1:1057c 105b3-105b9:1058c",
  "105bb:10594,10595 10cc0-10cf2:10c80 10d70-10d85:10d50 118c0-118df:118a0 16e60-16e7f:16e40",
  "16ebb-16ed3:16ea0 1e922-1e943:1e900"]

/-- The small letters of the characters outside ASCII. -/
def smallLetters : List Run := Run.table [
  "c0-d6:e0 d8-de:f8 100-12e/2:101 130:69+307 132-136/2:133 139-147/2:13a 14a-176/2:14b 178:ff",
  "179-17d/2:17a 181:253,183 184:185 186:254,188 189:256,257,18c 18e:1dd,259,25b,192 193:260,263",
  "196:269,268,199 19c:26f,272 19f:275 1a0-1a4/2:1a1 1a6:280,1a8 1a9:283 1ac:1ad 1ae:288,1b0",
  "1b1:28a,28b,1b4 1b5:1b6 1b7:292,1b9 1bc:1bd 1c4:1c6,1c6 1c7:1c9,1c9 1ca:1cc 1cb-1db/2:1cc",
  "1de-1ee/2:1df 1f1:1f3,1f3 1f4:1f5 1f6:195,1bf 1f8-21e/2:1f9 220:19e 222-232/2:223 23a:2c65,23c",
  "23d:19a,2c66 241:242 243:180,289,28c 246-24e/2:247 370:371 372:373 376:377 37f:3f3 386:3ac",
  "388-38a:3ad 38c:3cc 38e:3cd,3ce 391-3a1:3b1 3a3-3ab:3c3 3cf:3d7 3d8-3ee/2:3d9 3f4:3b8 3f7:3f8",
  "3f9:3f2,3fb 3fd-3ff:37b 400-40f:450 410-42f:430 460-480/2:461 48a-4be/2:48b 4c0:4cf",
  "4c1-4cd/2:4c2 4d0-52e/2:4d1 531-556:561 10a0-10c5:2d00 10c7:2d27 10cd:2d2d 13a0-13ef:ab70",
  "13f0-13f5:13f8 1c89:1c8a 1c90-1cba:10d0 1cbd-1cbf:10fd 1e00-1e94/2:1e01 1e9e:df",
  "1ea0-1efe/2:1ea1 1f08-1f0f:1f00 1f18-1f1d:1f10 1f28-1f2f:1f20 1f38-1f3f:1f30 1f48-1f4d:1f40",
  "1f59-1f5f/2:1f51 1f68-1f6f:1f60 1f88-1f8f:1f80 1f98-1f9f:1f90 1fa8-1faf:1fa0 1fb8:1fb0,1fb1",
  "1fba:1f70,1f71,1fb3 1fc8-1fcb:1f72 1fcc:1fc3 1fd8:1fd0,1fd1,1f76,1f77 1fe8:1fe0,1fe1,1f7a,1f7b",
  "1fec:1fe5 1ff8:1f78,1f79,1f7c,1f7d,1ff3 2126:3c9 212a:6b,e5 2132:214e 2160-216f:2170 2183:2184",
  "24b6-24cf:24d0 2c00-2c2f:2c30 2c60:2c61 2c62:26b,1d7d,27d 2c67-2c6b/2:2c68 2c6d:251,271,250",
  "2c70:252 2c72:2c73 2c75:2c76 2c7e:23f,240 2c80-2ce2/2:2c81 2ceb:2cec 2ced:2cee 2cf2:2cf3",
  "a640-a66c/2:a641 a680-a69a/2:a681 a722-a72e/2:a723 a732-a76e/2:a733 a779:a77a a77b:a77c",
  "a77d:1d79 a77e-a786/2:a77f a78b:a78c a78d:265 a790:a791 a792:a793 a796-a7a8/2:a797 a7aa:266",
  "a7ab:25c,261,26c,26a a7b0:29e,287,29d,ab53 a7b4-a7c2/2:a7b5 a7c4:a794,282,1d8e,a7c8 a7c9:a7ca",
  "a7cb:264 a7cc-a7da/2:a7cd a7dc:19b a7f5:a7f6 ff21-ff3a:ff41 10400-10427:10428",
  "104b0-104d3:104d8 10570-1057a:10597 1057c-1058a:105a3 1058c-10592:105b3 10594:105bb,105bc",
  "10c80-10cb2:10cc0 10d50-10d65:10d70 118a0-118bf:118c0 16e40-16e5f:16e60 16ea0-16eb8:16ebb",
  "1e900-1e921:1e922"]

/-- Small letters and capitals outside ASCII, also those without the other. -/
def letters : List Run := Run.table [
  "aa b5 ba c0-d6 d8-f6 f8-1ba 1bc-1bf 1c4-293 296-2b8 2c0-2c1 2e0-2e4 345 370-373 376-377",
  "37a-37d 37f 386 388-38a 38c 38e-3a1 3a3-3f5 3f7-481 48a-52f 531-556 560-588 10a0-10c5 10c7",
  "10cd 10d0-10fa 10fc-10ff 13a0-13f5 13f8-13fd 1c80-1c8a 1c90-1cba 1cbd-1cbf 1d00-1dbf 1e00-1f15",
  "1f18-1f1d 1f20-1f45 1f48-1f4d 1f50-1f57 1f59-1f5d/2 1f5f-1f7d 1f80-1fb4 1fb6-1fbc 1fbe",
  "1fc2-1fc4 1fc6-1fcc 1fd0-1fd3 1fd6-1fdb 1fe0-1fec 1ff2-1ff4 1ff6-1ffc 2071 207f 2090-209c 2102",
  "2107 210a-2113 2115 2119-211d 2124-2128/2 212a-212d 212f-2134 2139 213c-213f 2145-2149 214e",
  "2160-217f 2183-2184 24b6-24e9 2c00-2ce4 2ceb-2cee 2cf2-2cf3 2d00-2d25 2d27 2d2d a640-a66d",
  "a680-a69d a722-a787 a78b-a78e a790-a7dc a7f1-a7f6 a7f8-a7fa ab30-ab5a ab5c-ab69 ab70-abbf",
  "fb00-fb06 fb13-fb17 ff21-ff3a ff41-ff5a 10400-1044f 104b0-104d3 104d8-104fb 10570-1057a",
  "1057c-1058a 1058c-10592 10594-10595 10597-105a1 105a3-105b1 105b3-105b9 105bb-105bc 10780",
  "10783-10785 10787-107b0 107b2-107ba 10c80-10cb2 10cc0-10cf2 10d50-10d65 10d70-10d85",
  "118a0-118df 16e40-16e7f 16ea0-16eb8 16ebb-16ed3 1d400-1d454 1d456-1d49c 1d49e-1d49f 1d4a2",
  "1d4a5-1d4a6 1d4a9-1d4ac 1d4ae-1d4b9 1d4bb 1d4bd-1d4c3 1d4c5-1d505 1d507-1d50a 1d50d-1d514",
  "1d516-1d51c 1d51e-1d539 1d53b-1d53e 1d540-1d544 1d546 1d54a-1d550 1d552-1d6a5 1d6a8-1d6c0",
  "1d6c2-1d6da 1d6dc-1d6fa 1d6fc-1d714 1d716-1d734 1d736-1d74e 1d750-1d76e 1d770-1d788",
  "1d78a-1d7a8 1d7aa-1d7c2 1d7c4-1d7cb 1df00-1df09 1df0b-1df1e 1df25-1df2a 1e030-1e06d",
  "1e900-1e943 1f130-1f149 1f150-1f169 1f170-1f189"]

/-- Characters outside ASCII that a word may hold between its letters, marks and
steering characters apart. -/
def betweenLetters : List Run := Run.table [
  "a8 af b4 b7-b8 2b0-2ff 374-375 37a 384-385 387 559 55f 5f4 640 6e5-6e6 7f4-7f5 7fa 81a 824 828",
  "888 8c9 971 e46 ec6 10fc 17d7 1843 1aa7 1c78-1c7d 1d2c-1d6a 1d78 1d9b-1dbf 1fbd 1fbf-1fc1",
  "1fcd-1fcf 1fdd-1fdf 1fed-1fef 1ffd-1ffe 2018-2019 2024 2027 2071 207f 2090-209c 2c7c-2c7d 2d6f",
  "2e2f 3005 3031-3035 303b 309b-309e 30fc-30fe a015 a4f8-a4fd a60c a67f a69c-a69d a700-a721 a770",
  "a788-a78a a7f1-a7f4 a7f8-a7f9 a9cf a9e6 aa70 aadd aaf3-aaf4 ab5b-ab5f ab69-ab6b fbb2-fbc2 fe13",
  "fe52 fe55 ff07 ff0e ff1a ff3e ff40 ff70 ff9e-ff9f ffe3 10780-10785 10787-107b0 107b2-107ba",
  "10d4e 10d6f 10ec5 11dd9 16b40-16b43 16d40-16d42 16d6b-16d6c 16f93-16f9f 16fe0-16fe1 16fe3",
  "16ff2-16ff3 1aff0-1aff3 1aff5-1affb 1affd-1affe 1e030-1e06d 1e137-1e13d 1e4eb 1e6ff 1e94b",
  "1f3fb-1f3ff"]

/-- The capital of a character. -/
def upperChar (c : Char) : List Char :=
  if c.toNat < 0x80 then [c.toUpper]
  else
    match Run.image? capitals c.toNat with
    | some several => several.map Char.ofNat
    | none => [c]

/-- The small letter of a character that stands alone. -/
def lowerChar (c : Char) : List Char :=
  if c.toNat < 0x80 then [c.toLower]
  else
    match Run.image? smallLetters c.toNat with
    | some several => several.map Char.ofNat
    | none => [c]

/-- A small letter or a capital. -/
def isLetter (c : Char) : Bool :=
  if c.toNat < 0x80 then c.isAlpha else Run.anyHolds letters c.toNat

/-- A character that a word may hold between its letters. -/
def isBetweenLetters (c : Char) : Bool :=
  if c.toNat < 0x80 then "'.:^`".toList.contains c
  else isNonspacing c || isSteering c || Run.anyHolds betweenLetters c.toNat

/-- Whether a word goes on with a letter. -/
def goesOn (text : List Char) : Bool :=
  (text.dropWhile isBetweenLetters).head?.any isLetter

/-- Small letters for what follows the text `before`, whose last character stands
first. -/
def lowerFrom (before : List Char) : List Char → List Char
  | [] => []
  | c :: rest =>
      let small :=
        if c.toNat = 0x3A3 && goesOn before && !goesOn rest then [Char.ofNat 0x3C2]
        else lowerChar c
      small ++ lowerFrom (c :: before) rest

/-- The text in capitals. -/
def upper (s : String) : String :=
  String.ofList (s.toList.flatMap upperChar)

/-- The text in small letters. -/
def lower (s : String) : String :=
  String.ofList (lowerFrom [] s.toList)

example : upper "eur ß é" = "EUR SS É" := by decide +kernel
example : lower "FILE É OΣ" = "file é oς" := by decide +kernel

end BillingAccess.Text
