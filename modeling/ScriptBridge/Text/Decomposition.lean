/-!
# The parts of characters

What Unicode takes characters apart into.  A composed character has two canonical parts, a base and
a mark, which make it again; a few are other characters canonically and are never made.  Under a
looser view, the compatible one, many more are plain characters in another shape.  Marks have a
class: those of different classes may stand in any order, and a canonical text has them by class.
The syllables of Hangul are made of their letters by counting and stand in no table.
-/

namespace ScriptBridge

namespace Text

/-! ### Tables -/

/-- A table of characters by their numbers, in increasing order, with the numbers that each of them
has. -/
abbrev PartTable := Array (Nat × List Nat)

namespace PartTable

/-- The value of a hexadecimal digit. -/
def digit? (c : Char) : Option Nat :=
  if '0' ≤ c ∧ c ≤ '9' then some (c.toNat - 0x30)
  else if 'a' ≤ c ∧ c ≤ 'f' then some (c.toNat - 0x57)
  else none

/-- A table that is being read: its rows, the character of the next row, the numbers of that row in
reverse, and the number that the last digits make. -/
structure Reading where
  rows : PartTable := #[]
  next : Nat := 0
  parts : List Nat := []
  number : Option Nat := none

/-- Ends a number and the row it is in, if there is one. -/
def Reading.endRow (r : Reading) : Reading :=
  match r.number with
  | some n => { rows := r.rows.push (r.next, (n :: r.parts).reverse), next := r.next + 1 }
  | none => r

/-- Reads one more character. -/
def Reading.take (r : Reading) (c : Char) : Reading :=
  match digit? c with
  | some d => { r with number := some (r.number.getD 0 * 16 + d) }
  | none =>
    if c = '+' then { r with parts := r.number.getD 0 :: r.parts, number := none }
    else if c = ':' then { r with next := r.number.getD 0, number := none }
    else r.endRow

/-- The table that a text writes.  Its rows follow each other for characters that do, with blanks
between them; a character in front of a colon is that of the next row; a plus sign stands between
the numbers of a row. -/
def ofText (text : String) : PartTable := (text.toList.foldl Reading.take {}).endRow.rows

/-- The row of a character. -/
def find? (t : PartTable) (n : Nat) : Option (List Nat) :=
  search t.size 0 t.size
where
  search : Nat → Nat → Nat → Option (List Nat)
    | 0, _, _ => none
    | fuel + 1, low, high =>
      if high ≤ low then none
      else
        let middle := (low + high) / 2
        let (m, parts) := t.getD middle (0, [])
        if n < m then search fuel low middle
        else if m < n then search fuel (middle + 1) high
        else some parts

end PartTable

/-- The composed characters, each with its two parts. -/
def composedPairs : PartTable := .ofText "
  c0: 41+300 41+301 41+302 41+303 41+308 41+30a c7: 43+327 45+300 45+301 45+302 45+308 49+300 49+301
  49+302 49+308 d1: 4e+303 4f+300 4f+301 4f+302 4f+303 4f+308 d9: 55+300 55+301 55+302 55+308 59+301
  e0: 61+300 61+301 61+302 61+303 61+308 61+30a e7: 63+327 65+300 65+301 65+302 65+308 69+300 69+301
  69+302 69+308 f1: 6e+303 6f+300 6f+301 6f+302 6f+303 6f+308 f9: 75+300 75+301 75+302 75+308 79+301
  ff: 79+308 41+304 61+304 41+306 61+306 41+328 61+328 43+301 63+301 43+302 63+302 43+307 63+307
  43+30c 63+30c 44+30c 64+30c 112: 45+304 65+304 45+306 65+306 45+307 65+307 45+328 65+328 45+30c
  65+30c 47+302 67+302 47+306 67+306 47+307 67+307 47+327 67+327 48+302 68+302 128: 49+303 69+303
  49+304 69+304 49+306 69+306 49+328 69+328 49+307 134: 4a+302 6a+302 4b+327 6b+327 139: 4c+301
  6c+301 4c+327 6c+327 4c+30c 6c+30c 143: 4e+301 6e+301 4e+327 6e+327 4e+30c 6e+30c 14c: 4f+304
  6f+304 4f+306 6f+306 4f+30b 6f+30b 154: 52+301 72+301 52+327 72+327 52+30c 72+30c 53+301 73+301
  53+302 73+302 53+327 73+327 53+30c 73+30c 54+327 74+327 54+30c 74+30c 168: 55+303 75+303 55+304
  75+304 55+306 75+306 55+30a 75+30a 55+30b 75+30b 55+328 75+328 57+302 77+302 59+302 79+302 59+308
  5a+301 7a+301 5a+307 7a+307 5a+30c 7a+30c 1a0: 4f+31b 6f+31b 1af: 55+31b 75+31b 1cd: 41+30c 61+30c
  49+30c 69+30c 4f+30c 6f+30c 55+30c 75+30c dc+304 fc+304 dc+301 fc+301 dc+30c fc+30c dc+300 fc+300
  1de: c4+304 e4+304 226+304 227+304 c6+304 e6+304 1e6: 47+30c 67+30c 4b+30c 6b+30c 4f+328 6f+328
  1ea+304 1eb+304 1b7+30c 292+30c 6a+30c 1f4: 47+301 67+301 1f8: 4e+300 6e+300 c5+301 e5+301 c6+301
  e6+301 d8+301 f8+301 41+30f 61+30f 41+311 61+311 45+30f 65+30f 45+311 65+311 49+30f 69+30f 49+311
  69+311 4f+30f 6f+30f 4f+311 6f+311 52+30f 72+30f 52+311 72+311 55+30f 75+30f 55+311 75+311 53+326
  73+326 54+326 74+326 21e: 48+30c 68+30c 226: 41+307 61+307 45+327 65+327 d6+304 f6+304 d5+304
  f5+304 4f+307 6f+307 22e+304 22f+304 59+304 79+304 385: a8+301 391+301 388: 395+301 397+301
  399+301 38c: 39f+301 38e: 3a5+301 3a9+301 3ca+301 3aa: 399+308 3a5+308 3b1+301 3b5+301 3b7+301
  3b9+301 3cb+301 3ca: 3b9+308 3c5+308 3bf+301 3c5+301 3c9+301 3d3: 3d2+301 3d2+308 400: 415+300
  415+308 403: 413+301 407: 406+308 40c: 41a+301 418+300 423+306 419: 418+306 439: 438+306 450:
  435+300 435+308 453: 433+301 457: 456+308 45c: 43a+301 438+300 443+306 476: 474+30f 475+30f 4c1:
  416+306 436+306 4d0: 410+306 430+306 410+308 430+308 4d6: 415+306 435+306 4da: 4d8+308 4d9+308
  416+308 436+308 417+308 437+308 4e2: 418+304 438+304 418+308 438+308 41e+308 43e+308 4ea: 4e8+308
  4e9+308 42d+308 44d+308 423+304 443+304 423+308 443+308 423+30b 443+30b 427+308 447+308 4f8:
  42b+308 44b+308 622: 627+653 627+654 648+654 627+655 64a+654 6c0: 6d5+654 6c2: 6c1+654 6d3:
  6d2+654 929: 928+93c 931: 930+93c 934: 933+93c 9cb: 9c7+9be 9c7+9d7 b48: b47+b56 b4b: b47+b3e
  b47+b57 b94: b92+bd7 bca: bc6+bbe bc7+bbe bc6+bd7 c48: c46+c56 cc0: cbf+cd5 cc7: cc6+cd5 cc6+cd6
  cca: cc6+cc2 cca+cd5 d4a: d46+d3e d47+d3e d46+d57 dda: dd9+dca ddc: dd9+dcf ddc+dca dd9+ddf 1026:
  1025+102e 1b06: 1b05+1b35 1b08: 1b07+1b35 1b0a: 1b09+1b35 1b0c: 1b0b+1b35 1b0e: 1b0d+1b35 1b12:
  1b11+1b35 1b3b: 1b3a+1b35 1b3d: 1b3c+1b35 1b40: 1b3e+1b35 1b3f+1b35 1b43: 1b42+1b35 1e00: 41+325
  61+325 42+307 62+307 42+323 62+323 42+331 62+331 c7+301 e7+301 44+307 64+307 44+323 64+323 44+331
  64+331 44+327 64+327 44+32d 64+32d 112+300 113+300 112+301 113+301 45+32d 65+32d 45+330 65+330
  228+306 229+306 46+307 66+307 47+304 67+304 48+307 68+307 48+323 68+323 48+308 68+308 48+327
  68+327 48+32e 68+32e 49+330 69+330 cf+301 ef+301 4b+301 6b+301 4b+323 6b+323 4b+331 6b+331 4c+323
  6c+323 1e36+304 1e37+304 4c+331 6c+331 4c+32d 6c+32d 4d+301 6d+301 4d+307 6d+307 4d+323 6d+323
  4e+307 6e+307 4e+323 6e+323 4e+331 6e+331 4e+32d 6e+32d d5+301 f5+301 d5+308 f5+308 14c+300
  14d+300 14c+301 14d+301 50+301 70+301 50+307 70+307 52+307 72+307 52+323 72+323 1e5a+304 1e5b+304
  52+331 72+331 53+307 73+307 53+323 73+323 15a+307 15b+307 160+307 161+307 1e62+307 1e63+307 54+307
  74+307 54+323 74+323 54+331 74+331 54+32d 74+32d 55+324 75+324 55+330 75+330 55+32d 75+32d 168+301
  169+301 16a+308 16b+308 56+303 76+303 56+323 76+323 57+300 77+300 57+301 77+301 57+308 77+308
  57+307 77+307 57+323 77+323 58+307 78+307 58+308 78+308 59+307 79+307 5a+302 7a+302 5a+323 7a+323
  5a+331 7a+331 68+331 74+308 77+30a 79+30a 1e9b: 17f+307 1ea0: 41+323 61+323 41+309 61+309 c2+301
  e2+301 c2+300 e2+300 c2+309 e2+309 c2+303 e2+303 1ea0+302 1ea1+302 102+301 103+301 102+300 103+300
  102+309 103+309 102+303 103+303 1ea0+306 1ea1+306 45+323 65+323 45+309 65+309 45+303 65+303 ca+301
  ea+301 ca+300 ea+300 ca+309 ea+309 ca+303 ea+303 1eb8+302 1eb9+302 49+309 69+309 49+323 69+323
  4f+323 6f+323 4f+309 6f+309 d4+301 f4+301 d4+300 f4+300 d4+309 f4+309 d4+303 f4+303 1ecc+302
  1ecd+302 1a0+301 1a1+301 1a0+300 1a1+300 1a0+309 1a1+309 1a0+303 1a1+303 1a0+323 1a1+323 55+323
  75+323 55+309 75+309 1af+301 1b0+301 1af+300 1b0+300 1af+309 1b0+309 1af+303 1b0+303 1af+323
  1b0+323 59+300 79+300 59+323 79+323 59+309 79+309 59+303 79+303 1f00: 3b1+313 3b1+314 1f00+300
  1f01+300 1f00+301 1f01+301 1f00+342 1f01+342 391+313 391+314 1f08+300 1f09+300 1f08+301 1f09+301
  1f08+342 1f09+342 3b5+313 3b5+314 1f10+300 1f11+300 1f10+301 1f11+301 1f18: 395+313 395+314
  1f18+300 1f19+300 1f18+301 1f19+301 1f20: 3b7+313 3b7+314 1f20+300 1f21+300 1f20+301 1f21+301
  1f20+342 1f21+342 397+313 397+314 1f28+300 1f29+300 1f28+301 1f29+301 1f28+342 1f29+342 3b9+313
  3b9+314 1f30+300 1f31+300 1f30+301 1f31+301 1f30+342 1f31+342 399+313 399+314 1f38+300 1f39+300
  1f38+301 1f39+301 1f38+342 1f39+342 3bf+313 3bf+314 1f40+300 1f41+300 1f40+301 1f41+301 1f48:
  39f+313 39f+314 1f48+300 1f49+300 1f48+301 1f49+301 1f50: 3c5+313 3c5+314 1f50+300 1f51+300
  1f50+301 1f51+301 1f50+342 1f51+342 1f59: 3a5+314 1f5b: 1f59+300 1f5d: 1f59+301 1f5f: 1f59+342
  3c9+313 3c9+314 1f60+300 1f61+300 1f60+301 1f61+301 1f60+342 1f61+342 3a9+313 3a9+314 1f68+300
  1f69+300 1f68+301 1f69+301 1f68+342 1f69+342 3b1+300 1f72: 3b5+300 1f74: 3b7+300 1f76: 3b9+300
  1f78: 3bf+300 1f7a: 3c5+300 1f7c: 3c9+300 1f80: 1f00+345 1f01+345 1f02+345 1f03+345 1f04+345
  1f05+345 1f06+345 1f07+345 1f08+345 1f09+345 1f0a+345 1f0b+345 1f0c+345 1f0d+345 1f0e+345 1f0f+345
  1f20+345 1f21+345 1f22+345 1f23+345 1f24+345 1f25+345 1f26+345 1f27+345 1f28+345 1f29+345 1f2a+345
  1f2b+345 1f2c+345 1f2d+345 1f2e+345 1f2f+345 1f60+345 1f61+345 1f62+345 1f63+345 1f64+345 1f65+345
  1f66+345 1f67+345 1f68+345 1f69+345 1f6a+345 1f6b+345 1f6c+345 1f6d+345 1f6e+345 1f6f+345 3b1+306
  3b1+304 1f70+345 3b1+345 3ac+345 1fb6: 3b1+342 1fb6+345 391+306 391+304 391+300 1fbc: 391+345
  1fc1: a8+342 1f74+345 3b7+345 3ae+345 1fc6: 3b7+342 1fc6+345 395+300 1fca: 397+300 1fcc: 397+345
  1fbf+300 1fbf+301 1fbf+342 3b9+306 3b9+304 3ca+300 1fd6: 3b9+342 3ca+342 399+306 399+304 399+300
  1fdd: 1ffe+300 1ffe+301 1ffe+342 3c5+306 3c5+304 3cb+300 1fe4: 3c1+313 3c1+314 3c5+342 3cb+342
  3a5+306 3a5+304 3a5+300 1fec: 3a1+314 a8+300 1ff2: 1f7c+345 3c9+345 3ce+345 1ff6: 3c9+342 1ff6+345
  39f+300 1ffa: 3a9+300 1ffc: 3a9+345 219a: 2190+338 2192+338 21ae: 2194+338 21cd: 21d0+338 21d4+338
  21d2+338 2204: 2203+338 2209: 2208+338 220c: 220b+338 2224: 2223+338 2226: 2225+338 2241: 223c+338
  2244: 2243+338 2247: 2245+338 2249: 2248+338 2260: 3d+338 2262: 2261+338 226d: 224d+338 3c+338
  3e+338 2264+338 2265+338 2274: 2272+338 2273+338 2278: 2276+338 2277+338 2280: 227a+338 227b+338
  2284: 2282+338 2283+338 2288: 2286+338 2287+338 22ac: 22a2+338 22a8+338 22a9+338 22ab+338 22e0:
  227c+338 227d+338 2291+338 2292+338 22ea: 22b2+338 22b3+338 22b4+338 22b5+338 304c: 304b+3099
  304e: 304d+3099 3050: 304f+3099 3052: 3051+3099 3054: 3053+3099 3056: 3055+3099 3058: 3057+3099
  305a: 3059+3099 305c: 305b+3099 305e: 305d+3099 3060: 305f+3099 3062: 3061+3099 3065: 3064+3099
  3067: 3066+3099 3069: 3068+3099 3070: 306f+3099 306f+309a 3073: 3072+3099 3072+309a 3076:
  3075+3099 3075+309a 3079: 3078+3099 3078+309a 307c: 307b+3099 307b+309a 3094: 3046+3099 309e:
  309d+3099 30ac: 30ab+3099 30ae: 30ad+3099 30b0: 30af+3099 30b2: 30b1+3099 30b4: 30b3+3099 30b6:
  30b5+3099 30b8: 30b7+3099 30ba: 30b9+3099 30bc: 30bb+3099 30be: 30bd+3099 30c0: 30bf+3099 30c2:
  30c1+3099 30c5: 30c4+3099 30c7: 30c6+3099 30c9: 30c8+3099 30d0: 30cf+3099 30cf+309a 30d3:
  30d2+3099 30d2+309a 30d6: 30d5+3099 30d5+309a 30d9: 30d8+3099 30d8+309a 30dc: 30db+3099 30db+309a
  30f4: 30a6+3099 30f7: 30ef+3099 30f0+3099 30f1+3099 30f2+3099 30fe: 30fd+3099 105c9: 105d2+307
  105e4: 105da+307 1109a: 11099+110ba 1109c: 1109b+110ba 110ab: 110a5+110ba 1112e: 11131+11127
  11132+11127 1134b: 11347+1133e 11347+11357 11383: 11382+113c9 11385: 11384+113bb 1138e:
  1138b+113c2 11391: 11390+113c9 113c5: 113c2+113c2 113c7: 113c2+113b8 113c2+113c9 114bb:
  114b9+114ba 114b9+114b0 114be: 114b9+114bd 115ba: 115b8+115af 115b9+115af 11938: 11935+11930
  16121: 1611e+1611e 1611e+16129 1611e+1611f 16129+1611f 1611e+16120 16121+1611f 16122+1611f
  16121+16120 16d68: 16d67+16d67 16d63+16d67 16d69+16d67"

/-- The characters that are others canonically but are not made of them. -/
def canonicalOthers : PartTable := .ofText "
  340: 300 301 343: 313 308+301 374: 2b9 37e: 3b 387: b7 958: 915+93c 916+93c 917+93c 91c+93c
  921+93c 922+93c 92b+93c 92f+93c 9dc: 9a1+9bc 9a2+9bc 9df: 9af+9bc a33: a32+a3c a36: a38+a3c a59:
  a16+a3c a17+a3c a1c+a3c a5e: a2b+a3c b5c: b21+b3c b22+b3c f43: f42+fb7 f4d: f4c+fb7 f52: f51+fb7
  f57: f56+fb7 f5c: f5b+fb7 f69: f40+fb5 f73: f71+f72 f75: f71+f74 fb2+f80 f78: fb3+f80 f81: f71+f80
  f93: f92+fb7 f9d: f9c+fb7 fa2: fa1+fb7 fa7: fa6+fb7 fac: fab+fb7 fb9: f90+fb5 1f71: 3b1+301 1f73:
  3b5+301 1f75: 3b7+301 1f77: 3b9+301 1f79: 3bf+301 1f7b: 3c5+301 1f7d: 3c9+301 1fbb: 391+301 1fbe:
  3b9 1fc9: 395+301 1fcb: 397+301 1fd3: 3b9+308+301 1fdb: 399+301 1fe3: 3c5+308+301 1feb: 3a5+301
  1fee: a8+301 60 1ff9: 39f+301 1ffb: 3a9+301 1ffd: b4 2000: 2002 2003 2126: 3a9 212a: 4b 41+30a
  2329: 3008 3009 2adc: 2add+338 f900: 8c48 66f4 8eca 8cc8 6ed1 4e32 53e5 9f9c 9f9c 5951 91d1 5587
  5948 61f6 7669 7f85 863f 87ba 88f8 908f 6a02 6d1b 70d9 73de 843d 916a 99f1 4e82 5375 6b04 721b
  862d 9e1e 5d50 6feb 85cd 8964 62c9 81d8 881f 5eca 6717 6d6a 72fc 90ce 4f86 51b7 52de 64c4 6ad3
  7210 76e7 8001 8606 865c 8def 9732 9b6f 9dfa 788c 797f 7da0 83c9 9304 9e7f 8ad6 58df 5f04 7c60
  807e 7262 78ca 8cc2 96f7 58d8 5c62 6a13 6dda 6f0f 7d2f 7e37 964b 52d2 808b 51dc 51cc 7a1c 7dbe
  83f1 9675 8b80 62cf 6a02 8afe 4e39 5be7 6012 7387 7570 5317 78fb 4fbf 5fa9 4e0d 6ccc 6578 7d22
  53c3 585e 7701 8449 8aaa 6bba 8fb0 6c88 62fe 82e5 63a0 7565 4eae 5169 51c9 6881 7ce7 826f 8ad2
  91cf 52f5 5442 5973 5eec 65c5 6ffe 792a 95ad 9a6a 9e97 9ece 529b 66c6 6b77 8f62 5e74 6190 6200
  649a 6f23 7149 7489 79ca 7df4 806f 8f26 84ee 9023 934a 5217 52a3 54bd 70c8 88c2 8aaa 5ec9 5ff5
  637b 6bae 7c3e 7375 4ee4 56f9 5be7 5dba 601c 73b2 7469 7f9a 8046 9234 96f6 9748 9818 4f8b 79ae
  91b4 96b8 60e1 4e86 50da 5bee 5c3f 6599 6a02 71ce 7642 84fc 907c 9f8d 6688 962e 5289 677b 67f3
  6d41 6e9c 7409 7559 786b 7d10 985e 516d 622e 9678 502b 5d19 6dea 8f2a 5f8b 6144 6817 7387 9686
  5229 540f 5c65 6613 674e 68a8 6ce5 7406 75e2 7f79 88cf 88e1 91cc 96e2 533f 6eba 541d 71d0 7498
  85fa 96a3 9c57 9e9f 6797 6dcb 81e8 7acb 7b20 7c92 72c0 7099 8b58 4ec0 8336 523a 5207 5ea6 62d3
  7cd6 5b85 6d1e 66b4 8f3b 884c 964d 898b 5ed3 5140 55c0 fa10: 585a fa12: 6674 fa15: 51de 732a 76ca
  793c 795e 7965 798f 9756 7cbe 7fbd fa20: 8612 fa22: 8af8 fa25: 9038 90fd fa2a: 98ef 98fc 9928 9db4
  90de 96b7 4fae 50e7 514d 52c9 52e4 5351 559d 5606 5668 5840 58a8 5c64 5c6e 6094 6168 618e 61f2
  654f 65e2 6691 6885 6d77 6e1a 6f22 716e 722b 7422 7891 793e 7949 7948 7950 7956 795d 798d 798e
  7a40 7a81 7bc0 7df4 7e09 7e41 7f72 8005 81ed 8279 8279 8457 8910 8996 8b01 8b39 8cd3 8d08 8fb6
  9038 96e3 97ff 983b 6075 242ee 8218 fa70: 4e26 51b5 5168 4f80 5145 5180 52c7 52fa 559d 5555 5599
  55e2 585a 58b3 5944 5954 5a62 5b28 5ed2 5ed9 5f69 5fad 60d8 614e 6108 618e 6160 61f2 6234 63c4
  641c 6452 6556 6674 6717 671b 6756 6b79 6bba 6d41 6edb 6ecb 6f22 701e 716e 77a7 7235 72af 732a
  7471 7506 753b 761d 761f 76ca 76db 76f4 774a 7740 78cc 7ab1 7bc0 7c7b 7d5b 7df4 7f3e 8005 8352
  83ef 8779 8941 8986 8996 8abf 8af8 8acb 8b01 8afe 8aed 8b39 8b8a 8d08 8f38 9072 9199 9276 967c
  96e3 9756 97db 97ff 980b 983b 9b12 9f9c 2284a 22844 233d5 3b9d 4018 4039 25249 25cd0 27ed3 9f43
  9f8e fb1d: 5d9+5b4 fb1f: 5f2+5b7 fb2a: 5e9+5c1 5e9+5c2 5e9+5bc+5c1 5e9+5bc+5c2 5d0+5b7 5d0+5b8
  5d0+5bc 5d1+5bc 5d2+5bc 5d3+5bc 5d4+5bc 5d5+5bc 5d6+5bc fb38: 5d8+5bc 5d9+5bc 5da+5bc 5db+5bc
  5dc+5bc fb3e: 5de+5bc fb40: 5e0+5bc 5e1+5bc fb43: 5e3+5bc 5e4+5bc fb46: 5e6+5bc 5e7+5bc 5e8+5bc
  5e9+5bc 5ea+5bc 5d5+5b9 5d1+5bf 5db+5bf 5e4+5bf 1d15e: 1d157+1d165 1d158+1d165 1d158+1d165+1d16e
  1d158+1d165+1d16f 1d158+1d165+1d170 1d158+1d165+1d171 1d158+1d165+1d172 1d1bb: 1d1b9+1d165
  1d1ba+1d165 1d1b9+1d165+1d16e 1d1ba+1d165+1d16e 1d1b9+1d165+1d16f 1d1ba+1d165+1d16f 2f800: 4e3d
  4e38 4e41 20122 4f60 4fae 4fbb 5002 507a 5099 50e7 50cf 349e 2063a 514d 5154 5164 5177 2051c 34b9
  5167 518d 2054b 5197 51a4 4ecc 51ac 51b5 291df 51f5 5203 34df 523b 5246 5272 5277 3515 52c7 52c9
  52e4 52fa 5305 5306 5317 5349 5351 535a 5373 537d 537f 537f 537f 20a2c 7070 53ca 53df 20b63 53eb
  53f1 5406 549e 5438 5448 5468 54a2 54f6 5510 5553 5563 5584 5584 5599 55ab 55b3 55c2 5716 5606
  5717 5651 5674 5207 58ee 57ce 57f4 580d 578b 5832 5831 58ac 214e4 58f2 58f7 5906 591a 5922 5962
  216a8 216ea 59ec 5a1b 5a27 59d8 5a66 36ee 36fc 5b08 5b3e 5b3e 219c8 5bc3 5bd8 5be7 5bf3 21b18 5bff
  5c06 5f53 5c22 3781 5c60 5c6e 5cc0 5c8d 21de4 5d43 21de6 5d6e 5d6b 5d7c 5de1 5de2 382f 5dfd 5e28
  5e3d 5e69 3862 22183 387c 5eb0 5eb3 5eb6 5eca 2a392 5efe 22331 22331 8201 5f22 5f22 38c7 232b8
  261da 5f62 5f6b 38e3 5f9a 5fcd 5fd7 5ff9 6081 393a 391c 6094 226d4 60c7 6148 614c 614e 614c 617a
  618e 61b2 61a4 61af 61de 61f2 61f6 6210 621b 625d 62b1 62d4 6350 22b0c 633d 62fc 6368 6383 63e4
  22bf1 6422 63c5 63a9 3a2e 6469 647e 649d 6477 3a6c 654f 656c 2300a 65e3 66f8 6649 3b19 6691 3b08
  3ae4 5192 5195 6700 669c 80ad 43d9 6717 671b 6721 675e 6753 233c3 3b49 67fa 6785 6852 6885 2346d
  688e 681f 6914 3b9d 6942 69a3 69ea 6aa8 236a3 6adb 3c18 6b21 238a7 6b54 3c4e 6b72 6b9f 6bba 6bbb
  23a8d 21d0b 23afa 6c4e 23cbc 6cbf 6ccd 6c67 6d16 6d3e 6d77 6d41 6d69 6d78 6d85 23d1e 6d34 6e2f
  6e6e 3d33 6ecb 6ec7 23ed1 6df9 6f6e 23f5e 23f8e 6fc6 7039 701e 701b 3d96 704a 707d 7077 70ad 20525
  7145 24263 719c 243ab 7228 7235 7250 24608 7280 7295 24735 24814 737a 738b 3eac 73a5 3eb8 3eb8
  7447 745c 7471 7485 74ca 3f1b 7524 24c36 753e 24c92 7570 2219f 7610 24fa1 24fb8 25044 3ffc 4008
  76f4 250f3 250f2 25119 25133 771e 771f 771f 774a 4039 778b 4046 4096 2541d 784e 788c 78cc 40e3
  25626 7956 2569a 256c5 798f 79eb 412f 7a40 7a4a 7a4f 2597c 25aa7 25aa7 7aee 4202 25bab 7bc6 7bc9
  4227 25c80 7cd2 42a0 7ce8 7ce3 7d00 25f86 7d63 4301 7dc7 7e02 7e45 4334 26228 26247 4359 262d9
  7f7a 2633e 7f95 7ffa 8005 264da 26523 8060 265a8 8070 2335f 43d5 80b2 8103 440b 813e 5ab5 267a7
  267b5 23393 2339c 8201 8204 8f9e 446b 8291 828b 829d 52b3 82b1 82b3 82bd 82e6 26b3c 82e5 831d 8363
  83ad 8323 83bd 83e7 8457 8353 83ca 83cc 83dc 26c36 26d6b 26cd5 452b 84f1 84f3 8516 273ca 8564
  26f2c 455d 4561 26fb1 270d2 456b 8650 865c 8667 8669 86a9 8688 870e 86e2 8779 8728 876b 8786 45d7
  87e1 8801 45f9 8860 8863 27667 88d7 88de 4635 88fa 34bb 278ae 27966 46be 46c7 8aa0 8aed 8b8a 8c55
  27ca8 8cab 8cc1 8d1b 8d77 27f2f 20804 8dcb 8dbc 8df0 208de 8ed4 8f38 285d2 285ed 9094 90f1 9111
  2872e 911b 9238 92d7 92d8 927c 93f9 9415 28bfa 958b 4995 95b7 28d77 49e6 96c3 5db2 9723 29145
  2921a 4a6e 4a76 97e0 2940a 4ab2 29496 980b 980b 9829 295b6 98e2 4b33 9929 99a7 99c2 99fe 4bce
  29b30 9b12 9c40 9cfd 4cce 4ced 9d67 2a0ce 4cf8 2a105 2a20e 2a291 9ebb 4d56 9ef9 9efe 9f05 9f0f
  9f16 9f3b 2a600"

/-- The characters that are others in another shape. -/
def otherShapes : PartTable := .ofText "
  a0: 20 a8: 20+308 aa: 61 af: 20+304 b2: 32 33 20+301 3bc b8: 20+327 31 6f bc: 31+2044+34
  31+2044+32 33+2044+34 132: 49+4a 69+6a 13f: 4c+b7 6c+b7 149: 2bc+6e 17f: 73 1c4: 44+5a+30c
  44+7a+30c 64+7a+30c 4c+4a 4c+6a 6c+6a 4e+4a 4e+6a 6e+6a 1f1: 44+5a 44+7a 64+7a 2b0: 68 266 6a 72
  279 27b 281 77 79 2d8: 20+306 20+307 20+30a 20+328 20+303 20+30b 2e0: 263 6c 73 78 295 37a: 20+345
  384: 20+301 20+308+301 3d0: 3b2 3b8 3a5 3a5+301 3a5+308 3c6 3c0 3f0: 3ba 3c1 3c2 3f4: 398 3b5 3f9:
  3a3 587: 565+582 675: 627+674 648+674 6c7+674 64a+674 e33: e4d+e32 eb3: ecd+eb2 edc: eab+e99
  eab+ea1 f0c: f0b f77: fb2+f71+f80 f79: fb3+f71+f80 10fc: 10dc 1d2c: 41 c6 42 1d30: 44 45 18e 47 48
  49 4a 4b 4c 4d 4e 1d3c: 4f 222 50 52 54 55 57 61 250 251 1d02 62 64 65 259 25b 25c 67 1d4f: 6b 6d
  14b 6f 254 1d16 1d17 70 74 75 1d1d 26f 76 1d25 3b2 3b3 3b4 3c6 3c7 69 72 75 76 3b2 3b3 3c1 3c6 3c7
  1d78: 43d 1d9b: 252 63 255 f0 25c 66 25f 261 265 268 269 26a 1d7b 29d 26d 1d85 29f 271 270 272 273
  274 275 278 282 283 1ab 289 28a 1d1c 28b 28c 7a 290 291 292 3b8 1e9a: 61+2be 73+307 1fbd: 20+313
  1fbf: 20+313 20+342 20+308+342 1fcd: 20+313+300 20+313+301 20+313+342 1fdd: 20+314+300 20+314+301
  20+314+342 1fed: 20+308+300 20+308+301 1ffd: 20+301 20+314 2000: 20 20 20 20 20 20 20 20 20 20 20
  2011: 2010 2017: 20+333 2024: 2e 2e+2e 2e+2e+2e 202f: 20 2033: 2032+2032 2032+2032+2032 2036:
  2035+2035 2035+2035+2035 203c: 21+21 203e: 20+305 2047: 3f+3f 3f+21 21+3f 2057:
  2032+2032+2032+2032 205f: 20 2070: 30 69 2074: 34 35 36 37 38 39 2b 2212 3d 28 29 6e 30 31 32 33
  34 35 36 37 38 39 2b 2212 3d 28 29 2090: 61 65 6f 78 259 68 6b 6c 6d 6e 70 73 74 20a8: 52+73 2100:
  61+2f+63 61+2f+73 43 b0+43 2105: 63+2f+6f 63+2f+75 190 2109: b0+46 67 48 48 48 68 127 49 49 4c 6c
  2115: 4e 4e+6f 2119: 50 51 52 52 52 2120: 53+4d 54+45+4c 54+4d 2124: 5a 2128: 5a 212c: 42 43 212f:
  65 45 46 2133: 4d 6f 5d0 5d1 5d2 5d3 69 213b: 46+41+58 3c0 3b3 393 3a0 2211 2145: 44 64 65 69 6a
  2150: 31+2044+37 31+2044+39 31+2044+31+30 31+2044+33 32+2044+33 31+2044+35 32+2044+35 33+2044+35
  34+2044+35 31+2044+36 35+2044+36 31+2044+38 33+2044+38 35+2044+38 37+2044+38 31+2044 49 49+49
  49+49+49 49+56 56 56+49 56+49+49 56+49+49+49 49+58 58 58+49 58+49+49 4c 43 44 4d 69 69+69 69+69+69
  69+76 76 76+69 76+69+69 76+69+69+69 69+78 78 78+69 78+69+69 6c 63 64 6d 2189: 30+2044+33 222c:
  222b+222b 222b+222b+222b 222f: 222e+222e 222e+222e+222e 2460: 31 32 33 34 35 36 37 38 39 31+30
  31+31 31+32 31+33 31+34 31+35 31+36 31+37 31+38 31+39 32+30 28+31+29 28+32+29 28+33+29 28+34+29
  28+35+29 28+36+29 28+37+29 28+38+29 28+39+29 28+31+30+29 28+31+31+29 28+31+32+29 28+31+33+29
  28+31+34+29 28+31+35+29 28+31+36+29 28+31+37+29 28+31+38+29 28+31+39+29 28+32+30+29 31+2e 32+2e
  33+2e 34+2e 35+2e 36+2e 37+2e 38+2e 39+2e 31+30+2e 31+31+2e 31+32+2e 31+33+2e 31+34+2e 31+35+2e
  31+36+2e 31+37+2e 31+38+2e 31+39+2e 32+30+2e 28+61+29 28+62+29 28+63+29 28+64+29 28+65+29 28+66+29
  28+67+29 28+68+29 28+69+29 28+6a+29 28+6b+29 28+6c+29 28+6d+29 28+6e+29 28+6f+29 28+70+29 28+71+29
  28+72+29 28+73+29 28+74+29 28+75+29 28+76+29 28+77+29 28+78+29 28+79+29 28+7a+29 41 42 43 44 45 46
  47 48 49 4a 4b 4c 4d 4e 4f 50 51 52 53 54 55 56 57 58 59 5a 61 62 63 64 65 66 67 68 69 6a 6b 6c 6d
  6e 6f 70 71 72 73 74 75 76 77 78 79 7a 30 2a0c: 222b+222b+222b+222b 2a74: 3a+3a+3d 3d+3d 3d+3d+3d
  2c7c: 6a 56 2d6f: 2d61 2e9f: 6bcd 2ef3: 9f9f 2f00: 4e00 4e28 4e36 4e3f 4e59 4e85 4e8c 4ea0 4eba
  513f 5165 516b 5182 5196 51ab 51e0 51f5 5200 529b 52f9 5315 531a 5338 5341 535c 5369 5382 53b6
  53c8 53e3 56d7 571f 58eb 5902 590a 5915 5927 5973 5b50 5b80 5bf8 5c0f 5c22 5c38 5c6e 5c71 5ddb
  5de5 5df1 5dfe 5e72 5e7a 5e7f 5ef4 5efe 5f0b 5f13 5f50 5f61 5f73 5fc3 6208 6236 624b 652f 6534
  6587 6597 65a4 65b9 65e0 65e5 66f0 6708 6728 6b20 6b62 6b79 6bb3 6bcb 6bd4 6bdb 6c0f 6c14 6c34
  706b 722a 7236 723b 723f 7247 7259 725b 72ac 7384 7389 74dc 74e6 7518 751f 7528 7530 758b 7592
  7676 767d 76ae 76bf 76ee 77db 77e2 77f3 793a 79b8 79be 7a74 7acb 7af9 7c73 7cf8 7f36 7f51 7f8a
  7fbd 8001 800c 8012 8033 807f 8089 81e3 81ea 81f3 81fc 820c 821b 821f 826e 8272 8278 864d 866b
  8840 884c 8863 897e 898b 89d2 8a00 8c37 8c46 8c55 8c78 8c9d 8d64 8d70 8db3 8eab 8eca 8f9b 8fb0
  8fb5 9091 9149 91c6 91cc 91d1 9577 9580 961c 96b6 96b9 96e8 9751 975e 9762 9769 97cb 97ed 97f3
  9801 98a8 98db 98df 9996 9999 99ac 9aa8 9ad8 9adf 9b25 9b2f 9b32 9b3c 9b5a 9ce5 9e75 9e7f 9ea5
  9ebb 9ec3 9ecd 9ed1 9ef9 9efd 9f0e 9f13 9f20 9f3b 9f4a 9f52 9f8d 9f9c 9fa0 3000: 20 3036: 3012
  3038: 5341 5344 5345 309b: 20+3099 20+309a 309f: 3088+308a 30ff: 30b3+30c8 3131: 1100 1101 11aa
  1102 11ac 11ad 1103 1104 1105 11b0 11b1 11b2 11b3 11b4 11b5 111a 1106 1107 1108 1121 1109 110a
  110b 110c 110d 110e 110f 1110 1111 1112 1161 1162 1163 1164 1165 1166 1167 1168 1169 116a 116b
  116c 116d 116e 116f 1170 1171 1172 1173 1174 1175 1160 1114 1115 11c7 11c8 11cc 11ce 11d3 11d7
  11d9 111c 11dd 11df 111d 111e 1120 1122 1123 1127 1129 112b 112c 112d 112e 112f 1132 1136 1140
  1147 114c 11f1 11f2 1157 1158 1159 1184 1185 1188 1191 1192 1194 119e 11a1 3192: 4e00 4e8c 4e09
  56db 4e0a 4e2d 4e0b 7532 4e59 4e19 4e01 5929 5730 4eba 3200: 28+1100+29 28+1102+29 28+1103+29
  28+1105+29 28+1106+29 28+1107+29 28+1109+29 28+110b+29 28+110c+29 28+110e+29 28+110f+29 28+1110+29
  28+1111+29 28+1112+29 28+1100+1161+29 28+1102+1161+29 28+1103+1161+29 28+1105+1161+29
  28+1106+1161+29 28+1107+1161+29 28+1109+1161+29 28+110b+1161+29 28+110c+1161+29 28+110e+1161+29
  28+110f+1161+29 28+1110+1161+29 28+1111+1161+29 28+1112+1161+29 28+110c+116e+29
  28+110b+1169+110c+1165+11ab+29 28+110b+1169+1112+116e+29 3220: 28+4e00+29 28+4e8c+29 28+4e09+29
  28+56db+29 28+4e94+29 28+516d+29 28+4e03+29 28+516b+29 28+4e5d+29 28+5341+29 28+6708+29 28+706b+29
  28+6c34+29 28+6728+29 28+91d1+29 28+571f+29 28+65e5+29 28+682a+29 28+6709+29 28+793e+29 28+540d+29
  28+7279+29 28+8ca1+29 28+795d+29 28+52b4+29 28+4ee3+29 28+547c+29 28+5b66+29 28+76e3+29 28+4f01+29
  28+8cc7+29 28+5354+29 28+796d+29 28+4f11+29 28+81ea+29 28+81f3+29 554f 5e7c 6587 7b8f 3250:
  50+54+45 32+31 32+32 32+33 32+34 32+35 32+36 32+37 32+38 32+39 33+30 33+31 33+32 33+33 33+34 33+35
  1100 1102 1103 1105 1106 1107 1109 110b 110c 110e 110f 1110 1111 1112 1100+1161 1102+1161
  1103+1161 1105+1161 1106+1161 1107+1161 1109+1161 110b+1161 110c+1161 110e+1161 110f+1161
  1110+1161 1111+1161 1112+1161 110e+1161+11b7+1100+1169 110c+116e+110b+1174 110b+116e 3280: 4e00
  4e8c 4e09 56db 4e94 516d 4e03 516b 4e5d 5341 6708 706b 6c34 6728 91d1 571f 65e5 682a 6709 793e
  540d 7279 8ca1 795d 52b4 79d8 7537 5973 9069 512a 5370 6ce8 9805 4f11 5199 6b63 4e0a 4e2d 4e0b
  5de6 53f3 533b 5b97 5b66 76e3 4f01 8cc7 5354 591c 33+36 33+37 33+38 33+39 34+30 34+31 34+32 34+33
  34+34 34+35 34+36 34+37 34+38 34+39 35+30 31+6708 32+6708 33+6708 34+6708 35+6708 36+6708 37+6708
  38+6708 39+6708 31+30+6708 31+31+6708 31+32+6708 48+67 65+72+67 65+56 4c+54+44 30a2 30a4 30a6 30a8
  30aa 30ab 30ad 30af 30b1 30b3 30b5 30b7 30b9 30bb 30bd 30bf 30c1 30c4 30c6 30c8 30ca 30cb 30cc
  30cd 30ce 30cf 30d2 30d5 30d8 30db 30de 30df 30e0 30e1 30e2 30e4 30e6 30e8 30e9 30ea 30eb 30ec
  30ed 30ef 30f0 30f1 30f2 4ee4+548c 30a2+30cf+309a+30fc+30c8 30a2+30eb+30d5+30a1
  30a2+30f3+30d8+309a+30a2 30a2+30fc+30eb 30a4+30cb+30f3+30af+3099 30a4+30f3+30c1 30a6+30a9+30f3
  30a8+30b9+30af+30fc+30c8+3099 30a8+30fc+30ab+30fc 30aa+30f3+30b9 30aa+30fc+30e0 30ab+30a4+30ea
  30ab+30e9+30c3+30c8 30ab+30ed+30ea+30fc 30ab+3099+30ed+30f3 30ab+3099+30f3+30de
  30ad+3099+30ab+3099 30ad+3099+30cb+30fc 30ad+30e5+30ea+30fc 30ad+3099+30eb+30bf+3099+30fc
  30ad+30ed 30ad+30ed+30af+3099+30e9+30e0 30ad+30ed+30e1+30fc+30c8+30eb 30ad+30ed+30ef+30c3+30c8
  30af+3099+30e9+30e0 30af+3099+30e9+30e0+30c8+30f3 30af+30eb+30bb+3099+30a4+30ed
  30af+30ed+30fc+30cd 30b1+30fc+30b9 30b3+30eb+30ca 30b3+30fc+30db+309a 30b5+30a4+30af+30eb
  30b5+30f3+30c1+30fc+30e0 30b7+30ea+30f3+30af+3099 30bb+30f3+30c1 30bb+30f3+30c8
  30bf+3099+30fc+30b9 30c6+3099+30b7 30c8+3099+30eb 30c8+30f3 30ca+30ce 30ce+30c3+30c8
  30cf+30a4+30c4 30cf+309a+30fc+30bb+30f3+30c8 30cf+309a+30fc+30c4 30cf+3099+30fc+30ec+30eb
  30d2+309a+30a2+30b9+30c8+30eb 30d2+309a+30af+30eb 30d2+309a+30b3 30d2+3099+30eb
  30d5+30a1+30e9+30c3+30c8+3099 30d5+30a3+30fc+30c8 30d5+3099+30c3+30b7+30a7+30eb 30d5+30e9+30f3
  30d8+30af+30bf+30fc+30eb 30d8+309a+30bd 30d8+309a+30cb+30d2 30d8+30eb+30c4 30d8+309a+30f3+30b9
  30d8+309a+30fc+30b7+3099 30d8+3099+30fc+30bf 30db+309a+30a4+30f3+30c8 30db+3099+30eb+30c8
  30db+30f3 30db+309a+30f3+30c8+3099 30db+30fc+30eb 30db+30fc+30f3 30de+30a4+30af+30ed
  30de+30a4+30eb 30de+30c3+30cf 30de+30eb+30af 30de+30f3+30b7+30e7+30f3 30df+30af+30ed+30f3
  30df+30ea 30df+30ea+30cf+3099+30fc+30eb 30e1+30ab+3099 30e1+30ab+3099+30c8+30f3
  30e1+30fc+30c8+30eb 30e4+30fc+30c8+3099 30e4+30fc+30eb 30e6+30a2+30f3 30ea+30c3+30c8+30eb
  30ea+30e9 30eb+30d2+309a+30fc 30eb+30fc+30d5+3099+30eb 30ec+30e0 30ec+30f3+30c8+30b1+3099+30f3
  30ef+30c3+30c8 30+70b9 31+70b9 32+70b9 33+70b9 34+70b9 35+70b9 36+70b9 37+70b9 38+70b9 39+70b9
  31+30+70b9 31+31+70b9 31+32+70b9 31+33+70b9 31+34+70b9 31+35+70b9 31+36+70b9 31+37+70b9 31+38+70b9
  31+39+70b9 32+30+70b9 32+31+70b9 32+32+70b9 32+33+70b9 32+34+70b9 68+50+61 64+61 41+55 62+61+72
  6f+56 70+63 64+6d 64+6d+32 64+6d+33 49+55 5e73+6210 662d+548c 5927+6b63 660e+6cbb
  682a+5f0f+4f1a+793e 70+41 6e+41 3bc+41 6d+41 6b+41 4b+42 4d+42 47+42 63+61+6c 6b+63+61+6c 70+46
  6e+46 3bc+46 3bc+67 6d+67 6b+67 48+7a 6b+48+7a 4d+48+7a 47+48+7a 54+48+7a 3bc+6c 6d+6c 64+6c 6b+6c
  66+6d 6e+6d 3bc+6d 6d+6d 63+6d 6b+6d 6d+6d+32 63+6d+32 6d+32 6b+6d+32 6d+6d+33 63+6d+33 6d+33
  6b+6d+33 6d+2215+73 6d+2215+73+32 50+61 6b+50+61 4d+50+61 47+50+61 72+61+64 72+61+64+2215+73
  72+61+64+2215+73+32 70+73 6e+73 3bc+73 6d+73 70+56 6e+56 3bc+56 6d+56 6b+56 4d+56 70+57 6e+57
  3bc+57 6d+57 6b+57 4d+57 6b+3a9 4d+3a9 61+2e+6d+2e 42+71 63+63 63+64 43+2215+6b+67 43+6f+2e 64+42
  47+79 68+61 48+50 69+6e 4b+4b 4b+4d 6b+74 6c+6d 6c+6e 6c+6f+67 6c+78 6d+62 6d+69+6c 6d+6f+6c 50+48
  70+2e+6d+2e 50+50+4d 50+52 73+72 53+76 57+62 56+2215+6d 41+2215+6d 31+65e5 32+65e5 33+65e5 34+65e5
  35+65e5 36+65e5 37+65e5 38+65e5 39+65e5 31+30+65e5 31+31+65e5 31+32+65e5 31+33+65e5 31+34+65e5
  31+35+65e5 31+36+65e5 31+37+65e5 31+38+65e5 31+39+65e5 32+30+65e5 32+31+65e5 32+32+65e5 32+33+65e5
  32+34+65e5 32+35+65e5 32+36+65e5 32+37+65e5 32+38+65e5 32+39+65e5 33+30+65e5 33+31+65e5 67+61+6c
  a69c: 44a 44c a770: a76f a7f1: 53 43 46 51 a7f8: 126 153 ab5c: a727 ab37 26b ab52 ab69: 28d fb00:
  66+66 66+69 66+6c 66+66+69 66+66+6c 73+74 73+74 fb13: 574+576 574+565 574+56b 57e+576 574+56d
  fb20: 5e2 5d0 5d3 5d4 5db 5dc 5dd 5e8 5ea 2b fb4f: 5d0+5dc 671 671 67b 67b 67b 67b 67e 67e 67e 67e
  680 680 680 680 67a 67a 67a 67a 67f 67f 67f 67f 679 679 679 679 6a4 6a4 6a4 6a4 6a6 6a6 6a6 6a6
  684 684 684 684 683 683 683 683 686 686 686 686 687 687 687 687 68d 68d 68c 68c 68e 68e 688 688
  698 698 691 691 6a9 6a9 6a9 6a9 6af 6af 6af 6af 6b3 6b3 6b3 6b3 6b1 6b1 6b1 6b1 6ba 6ba 6bb 6bb
  6bb 6bb 6d5+654 6d5+654 6c1 6c1 6c1 6c1 6be 6be 6be 6be 6d2 6d2 6d2+654 6d2+654 fbd3: 6ad 6ad 6ad
  6ad 6c7 6c7 6c6 6c6 6c8 6c8 6c7+674 6cb 6cb 6c5 6c5 6c9 6c9 6d0 6d0 6d0 6d0 649 649 64a+654+627
  64a+654+627 64a+654+6d5 64a+654+6d5 64a+654+648 64a+654+648 64a+654+6c7 64a+654+6c7 64a+654+6c6
  64a+654+6c6 64a+654+6c8 64a+654+6c8 64a+654+6d0 64a+654+6d0 64a+654+6d0 64a+654+649 64a+654+649
  64a+654+649 6cc 6cc 6cc 6cc 64a+654+62c 64a+654+62d 64a+654+645 64a+654+649 64a+654+64a 628+62c
  628+62d 628+62e 628+645 628+649 628+64a 62a+62c 62a+62d 62a+62e 62a+645 62a+649 62a+64a 62b+62c
  62b+645 62b+649 62b+64a 62c+62d 62c+645 62d+62c 62d+645 62e+62c 62e+62d 62e+645 633+62c 633+62d
  633+62e 633+645 635+62d 635+645 636+62c 636+62d 636+62e 636+645 637+62d 637+645 638+645 639+62c
  639+645 63a+62c 63a+645 641+62c 641+62d 641+62e 641+645 641+649 641+64a 642+62d 642+645 642+649
  642+64a 643+627 643+62c 643+62d 643+62e 643+644 643+645 643+649 643+64a 644+62c 644+62d 644+62e
  644+645 644+649 644+64a 645+62c 645+62d 645+62e 645+645 645+649 645+64a 646+62c 646+62d 646+62e
  646+645 646+649 646+64a 647+62c 647+645 647+649 647+64a 64a+62c 64a+62d 64a+62e 64a+645 64a+649
  64a+64a 630+670 631+670 649+670 20+64c+651 20+64d+651 20+64e+651 20+64f+651 20+650+651 20+651+670
  64a+654+631 64a+654+632 64a+654+645 64a+654+646 64a+654+649 64a+654+64a 628+631 628+632 628+645
  628+646 628+649 628+64a 62a+631 62a+632 62a+645 62a+646 62a+649 62a+64a 62b+631 62b+632 62b+645
  62b+646 62b+649 62b+64a 641+649 641+64a 642+649 642+64a 643+627 643+644 643+645 643+649 643+64a
  644+645 644+649 644+64a 645+627 645+645 646+631 646+632 646+645 646+646 646+649 646+64a 649+670
  64a+631 64a+632 64a+645 64a+646 64a+649 64a+64a 64a+654+62c 64a+654+62d 64a+654+62e 64a+654+645
  64a+654+647 628+62c 628+62d 628+62e 628+645 628+647 62a+62c 62a+62d 62a+62e 62a+645 62a+647
  62b+645 62c+62d 62c+645 62d+62c 62d+645 62e+62c 62e+645 633+62c 633+62d 633+62e 633+645 635+62d
  635+62e 635+645 636+62c 636+62d 636+62e 636+645 637+62d 638+645 639+62c 639+645 63a+62c 63a+645
  641+62c 641+62d 641+62e 641+645 642+62d 642+645 643+62c 643+62d 643+62e 643+644 643+645 644+62c
  644+62d 644+62e 644+645 644+647 645+62c 645+62d 645+62e 645+645 646+62c 646+62d 646+62e 646+645
  646+647 647+62c 647+645 647+670 64a+62c 64a+62d 64a+62e 64a+645 64a+647 64a+654+645 64a+654+647
  628+645 628+647 62a+645 62a+647 62b+645 62b+647 633+645 633+647 634+645 634+647 643+644 643+645
  644+645 646+645 646+647 64a+645 64a+647 640+64e+651 640+64f+651 640+650+651 637+649 637+64a
  639+649 639+64a 63a+649 63a+64a 633+649 633+64a 634+649 634+64a 62d+649 62d+64a 62c+649 62c+64a
  62e+649 62e+64a 635+649 635+64a 636+649 636+64a 634+62c 634+62d 634+62e 634+645 634+631 633+631
  635+631 636+631 637+649 637+64a 639+649 639+64a 63a+649 63a+64a 633+649 633+64a 634+649 634+64a
  62d+649 62d+64a 62c+649 62c+64a 62e+649 62e+64a 635+649 635+64a 636+649 636+64a 634+62c 634+62d
  634+62e 634+645 634+631 633+631 635+631 636+631 634+62c 634+62d 634+62e 634+645 633+647 634+647
  637+645 633+62c 633+62d 633+62e 634+62c 634+62d 634+62e 637+645 638+645 627+64b 627+64b fd50:
  62a+62c+645 62a+62d+62c 62a+62d+62c 62a+62d+645 62a+62e+645 62a+645+62c 62a+645+62d 62a+645+62e
  62c+645+62d 62c+645+62d 62d+645+64a 62d+645+649 633+62d+62c 633+62c+62d 633+62c+649 633+645+62d
  633+645+62d 633+645+62c 633+645+645 633+645+645 635+62d+62d 635+62d+62d 635+645+645 634+62d+645
  634+62d+645 634+62c+64a 634+645+62e 634+645+62e 634+645+645 634+645+645 636+62d+649 636+62e+645
  636+62e+645 637+645+62d 637+645+62d 637+645+645 637+645+64a 639+62c+645 639+645+645 639+645+645
  639+645+649 63a+645+645 63a+645+64a 63a+645+649 641+62e+645 641+62e+645 642+645+62d 642+645+645
  644+62d+645 644+62d+64a 644+62d+649 644+62c+62c 644+62c+62c 644+62e+645 644+62e+645 644+645+62d
  644+645+62d 645+62d+62c 645+62d+645 645+62d+64a 645+62c+62d 645+62c+645 645+62e+62c 645+62e+645
  fd92: 645+62c+62e 647+645+62c 647+645+645 646+62d+645 646+62d+649 646+62c+645 646+62c+645
  646+62c+649 646+645+64a 646+645+649 64a+645+645 64a+645+645 628+62e+64a 62a+62c+64a 62a+62c+649
  62a+62e+64a 62a+62e+649 62a+645+64a 62a+645+649 62c+645+64a 62c+62d+649 62c+645+649 633+62e+649
  635+62d+64a 634+62d+64a 636+62d+64a 644+62c+64a 644+645+64a 64a+62d+64a 64a+62c+64a 64a+645+64a
  645+645+64a 642+645+64a 646+62d+64a 642+645+62d 644+62d+645 639+645+64a 643+645+64a 646+62c+62d
  645+62e+64a 644+62c+645 643+645+645 644+62c+645 646+62c+62d 62c+62d+64a 62d+62c+64a 645+62c+64a
  641+645+64a 628+62d+64a 643+645+645 639+62c+645 635+645+645 633+62e+64a 646+62c+64a fdf0:
  635+644+6d2 642+644+6d2 627+644+644+647 627+643+628+631 645+62d+645+62f 635+644+639+645
  631+633+648+644 639+644+64a+647 648+633+644+645 635+644+649
  635+644+649+20+627+644+644+647+20+639+644+64a+647+20+648+633+644+645
  62c+644+20+62c+644+627+644+647 631+6cc+627+644 fe10: 2c 3001 3002 3a 3b 21 3f 3016 3017 2e+2e+2e
  fe30: 2e+2e 2014 2013 5f 5f 28 29 7b 7d 3014 3015 3010 3011 300a 300b 3008 3009 300c 300d 300e
  300f fe47: 5b 5d 20+305 20+305 20+305 20+305 5f 5f 5f 2c 3001 2e fe54: 3b 3a 3f 21 2014 28 29 7b
  7d 3014 3015 23 26 2a 2b 2d 3c 3e 3d fe68: 5c 24 25 40 fe70: 20+64b 640+64b 20+64c fe74: 20+64d
  fe76: 20+64e 640+64e 20+64f 640+64f 20+650 640+650 20+651 640+651 20+652 640+652 621 627+653
  627+653 627+654 627+654 648+654 648+654 627+655 627+655 64a+654 64a+654 64a+654 64a+654 627 627
  628 628 628 628 629 629 62a 62a 62a 62a 62b 62b 62b 62b 62c 62c 62c 62c 62d 62d 62d 62d 62e 62e
  62e 62e 62f 62f 630 630 631 631 632 632 633 633 633 633 634 634 634 634 635 635 635 635 636 636
  636 636 637 637 637 637 638 638 638 638 639 639 639 639 63a 63a 63a 63a 641 641 641 641 642 642
  642 642 643 643 643 643 644 644 644 644 645 645 645 645 646 646 646 646 647 647 647 647 648 648
  649 649 64a 64a 64a 64a 644+627+653 644+627+653 644+627+654 644+627+654 644+627+655 644+627+655
  644+627 644+627 ff01: 21 22 23 24 25 26 27 28 29 2a 2b 2c 2d 2e 2f 30 31 32 33 34 35 36 37 38 39
  3a 3b 3c 3d 3e 3f 40 41 42 43 44 45 46 47 48 49 4a 4b 4c 4d 4e 4f 50 51 52 53 54 55 56 57 58 59 5a
  5b 5c 5d 5e 5f 60 61 62 63 64 65 66 67 68 69 6a 6b 6c 6d 6e 6f 70 71 72 73 74 75 76 77 78 79 7a 7b
  7c 7d 7e 2985 2986 3002 300c 300d 3001 30fb 30f2 30a1 30a3 30a5 30a7 30a9 30e3 30e5 30e7 30c3 30fc
  30a2 30a4 30a6 30a8 30aa 30ab 30ad 30af 30b1 30b3 30b5 30b7 30b9 30bb 30bd 30bf 30c1 30c4 30c6
  30c8 30ca 30cb 30cc 30cd 30ce 30cf 30d2 30d5 30d8 30db 30de 30df 30e0 30e1 30e2 30e4 30e6 30e8
  30e9 30ea 30eb 30ec 30ed 30ef 30f3 3099 309a 1160 1100 1101 11aa 1102 11ac 11ad 1103 1104 1105
  11b0 11b1 11b2 11b3 11b4 11b5 111a 1106 1107 1108 1121 1109 110a 110b 110c 110d 110e 110f 1110
  1111 1112 ffc2: 1161 1162 1163 1164 1165 1166 ffca: 1167 1168 1169 116a 116b 116c ffd2: 116d 116e
  116f 1170 1171 1172 ffda: 1173 1174 1175 ffe0: a2 a3 ac 20+304 a6 a5 20a9 ffe8: 2502 2190 2191
  2192 2193 25a0 25cb 10781: 2d0 2d1 e6 299 253 10787: 2a3 ab66 2a5 2a4 256 257 1d91 258 25e 2a9 264
  262 260 29b 127 29c 267 284 2aa 2ab 26c 1df04 a78e 26e 1df05 28e 1df06 f8 276 277 71 27a 1df08 27d
  27e 280 2a8 2a6 ab67 2a7 288 2c71 107b2: 28f 2a1 2a2 298 1c0 1c1 1c2 1df0a 1df1e 1ccd6: 41 42 43
  44 45 46 47 48 49 4a 4b 4c 4d 4e 4f 50 51 52 53 54 55 56 57 58 59 5a 30 31 32 33 34 35 36 37 38 39
  1d400: 41 42 43 44 45 46 47 48 49 4a 4b 4c 4d 4e 4f 50 51 52 53 54 55 56 57 58 59 5a 61 62 63 64
  65 66 67 68 69 6a 6b 6c 6d 6e 6f 70 71 72 73 74 75 76 77 78 79 7a 41 42 43 44 45 46 47 48 49 4a 4b
  4c 4d 4e 4f 50 51 52 53 54 55 56 57 58 59 5a 61 62 63 64 65 66 67 1d456: 69 6a 6b 6c 6d 6e 6f 70
  71 72 73 74 75 76 77 78 79 7a 41 42 43 44 45 46 47 48 49 4a 4b 4c 4d 4e 4f 50 51 52 53 54 55 56 57
  58 59 5a 61 62 63 64 65 66 67 68 69 6a 6b 6c 6d 6e 6f 70 71 72 73 74 75 76 77 78 79 7a 41 1d49e:
  43 44 1d4a2: 47 1d4a5: 4a 4b 1d4a9: 4e 4f 50 51 1d4ae: 53 54 55 56 57 58 59 5a 61 62 63 64 1d4bb:
  66 1d4bd: 68 69 6a 6b 6c 6d 6e 1d4c5: 70 71 72 73 74 75 76 77 78 79 7a 41 42 43 44 45 46 47 48 49
  4a 4b 4c 4d 4e 4f 50 51 52 53 54 55 56 57 58 59 5a 61 62 63 64 65 66 67 68 69 6a 6b 6c 6d 6e 6f 70
  71 72 73 74 75 76 77 78 79 7a 41 42 1d507: 44 45 46 47 1d50d: 4a 4b 4c 4d 4e 4f 50 51 1d516: 53 54
  55 56 57 58 59 1d51e: 61 62 63 64 65 66 67 68 69 6a 6b 6c 6d 6e 6f 70 71 72 73 74 75 76 77 78 79
  7a 41 42 1d53b: 44 45 46 47 1d540: 49 4a 4b 4c 4d 1d546: 4f 1d54a: 53 54 55 56 57 58 59 1d552: 61
  62 63 64 65 66 67 68 69 6a 6b 6c 6d 6e 6f 70 71 72 73 74 75 76 77 78 79 7a 41 42 43 44 45 46 47 48
  49 4a 4b 4c 4d 4e 4f 50 51 52 53 54 55 56 57 58 59 5a 61 62 63 64 65 66 67 68 69 6a 6b 6c 6d 6e 6f
  70 71 72 73 74 75 76 77 78 79 7a 41 42 43 44 45 46 47 48 49 4a 4b 4c 4d 4e 4f 50 51 52 53 54 55 56
  57 58 59 5a 61 62 63 64 65 66 67 68 69 6a 6b 6c 6d 6e 6f 70 71 72 73 74 75 76 77 78 79 7a 41 42 43
  44 45 46 47 48 49 4a 4b 4c 4d 4e 4f 50 51 52 53 54 55 56 57 58 59 5a 61 62 63 64 65 66 67 68 69 6a
  6b 6c 6d 6e 6f 70 71 72 73 74 75 76 77 78 79 7a 41 42 43 44 45 46 47 48 49 4a 4b 4c 4d 4e 4f 50 51
  52 53 54 55 56 57 58 59 5a 61 62 63 64 65 66 67 68 69 6a 6b 6c 6d 6e 6f 70 71 72 73 74 75 76 77 78
  79 7a 41 42 43 44 45 46 47 48 49 4a 4b 4c 4d 4e 4f 50 51 52 53 54 55 56 57 58 59 5a 61 62 63 64 65
  66 67 68 69 6a 6b 6c 6d 6e 6f 70 71 72 73 74 75 76 77 78 79 7a 41 42 43 44 45 46 47 48 49 4a 4b 4c
  4d 4e 4f 50 51 52 53 54 55 56 57 58 59 5a 61 62 63 64 65 66 67 68 69 6a 6b 6c 6d 6e 6f 70 71 72 73
  74 75 76 77 78 79 7a 131 237 1d6a8: 391 392 393 394 395 396 397 398 399 39a 39b 39c 39d 39e 39f
  3a0 3a1 398 3a3 3a4 3a5 3a6 3a7 3a8 3a9 2207 3b1 3b2 3b3 3b4 3b5 3b6 3b7 3b8 3b9 3ba 3bb 3bc 3bd
  3be 3bf 3c0 3c1 3c2 3c3 3c4 3c5 3c6 3c7 3c8 3c9 2202 3b5 3b8 3ba 3c6 3c1 3c0 391 392 393 394 395
  396 397 398 399 39a 39b 39c 39d 39e 39f 3a0 3a1 398 3a3 3a4 3a5 3a6 3a7 3a8 3a9 2207 3b1 3b2 3b3
  3b4 3b5 3b6 3b7 3b8 3b9 3ba 3bb 3bc 3bd 3be 3bf 3c0 3c1 3c2 3c3 3c4 3c5 3c6 3c7 3c8 3c9 2202 3b5
  3b8 3ba 3c6 3c1 3c0 391 392 393 394 395 396 397 398 399 39a 39b 39c 39d 39e 39f 3a0 3a1 398 3a3
  3a4 3a5 3a6 3a7 3a8 3a9 2207 3b1 3b2 3b3 3b4 3b5 3b6 3b7 3b8 3b9 3ba 3bb 3bc 3bd 3be 3bf 3c0 3c1
  3c2 3c3 3c4 3c5 3c6 3c7 3c8 3c9 2202 3b5 3b8 3ba 3c6 3c1 3c0 391 392 393 394 395 396 397 398 399
  39a 39b 39c 39d 39e 39f 3a0 3a1 398 3a3 3a4 3a5 3a6 3a7 3a8 3a9 2207 3b1 3b2 3b3 3b4 3b5 3b6 3b7
  3b8 3b9 3ba 3bb 3bc 3bd 3be 3bf 3c0 3c1 3c2 3c3 3c4 3c5 3c6 3c7 3c8 3c9 2202 3b5 3b8 3ba 3c6 3c1
  3c0 391 392 393 394 395 396 397 398 399 39a 39b 39c 39d 39e 39f 3a0 3a1 398 3a3 3a4 3a5 3a6 3a7
  3a8 3a9 2207 3b1 3b2 3b3 3b4 3b5 3b6 3b7 3b8 3b9 3ba 3bb 3bc 3bd 3be 3bf 3c0 3c1 3c2 3c3 3c4 3c5
  3c6 3c7 3c8 3c9 2202 3b5 3b8 3ba 3c6 3c1 3c0 3dc 3dd 1d7ce: 30 31 32 33 34 35 36 37 38 39 30 31 32
  33 34 35 36 37 38 39 30 31 32 33 34 35 36 37 38 39 30 31 32 33 34 35 36 37 38 39 30 31 32 33 34 35
  36 37 38 39 1e030: 430 431 432 433 434 435 436 437 438 43a 43b 43c 43e 43f 440 441 442 443 444 445
  446 447 448 44b 44d 44e a689 4d9 456 458 4e9 4af 4cf 430 431 432 433 434 435 436 437 438 43a 43b
  43e 43f 441 443 444 445 446 447 448 44a 44b 491 456 455 45f 4ab a651 4b1 1ee00: 627 628 62c 62f
  1ee05: 648 632 62d 637 64a 643 644 645 646 633 639 641 635 642 631 634 62a 62b 62e 630 636 638 63a
  66e 6ba 6a1 66f 1ee21: 628 62c 1ee24: 647 1ee27: 62d 1ee29: 64a 643 644 645 646 633 639 641 635
  642 1ee34: 634 62a 62b 62e 1ee39: 636 1ee3b: 63a 1ee42: 62c 1ee47: 62d 1ee49: 64a 1ee4b: 644
  1ee4d: 646 633 639 1ee51: 635 642 1ee54: 634 1ee57: 62e 1ee59: 636 1ee5b: 63a 1ee5d: 6ba 1ee5f:
  66f 1ee61: 628 62c 1ee64: 647 1ee67: 62d 637 64a 643 1ee6c: 645 646 633 639 641 635 642 1ee74: 634
  62a 62b 62e 1ee79: 636 638 63a 66e 1ee7e: 6a1 1ee80: 627 628 62c 62f 647 648 632 62d 637 64a
  1ee8b: 644 645 646 633 639 641 635 642 631 634 62a 62b 62e 630 636 638 63a 1eea1: 628 62c 62f
  1eea5: 648 632 62d 637 64a 1eeab: 644 645 646 633 639 641 635 642 631 634 62a 62b 62e 630 636 638
  63a 1f100: 30+2e 30+2c 31+2c 32+2c 33+2c 34+2c 35+2c 36+2c 37+2c 38+2c 39+2c 1f110: 28+41+29
  28+42+29 28+43+29 28+44+29 28+45+29 28+46+29 28+47+29 28+48+29 28+49+29 28+4a+29 28+4b+29 28+4c+29
  28+4d+29 28+4e+29 28+4f+29 28+50+29 28+51+29 28+52+29 28+53+29 28+54+29 28+55+29 28+56+29 28+57+29
  28+58+29 28+59+29 28+5a+29 3014+53+3015 43 52 43+44 57+5a 1f130: 41 42 43 44 45 46 47 48 49 4a 4b
  4c 4d 4e 4f 50 51 52 53 54 55 56 57 58 59 5a 48+56 4d+56 53+44 53+53 50+50+56 57+43 1f16a: 4d+43
  4d+44 4d+52 1f190: 44+4a 1f200: 307b+304b 30b3+30b3 30b5 1f210: 624b 5b57 53cc 30c6+3099 4e8c 591a
  89e3 5929 4ea4 6620 7121 6599 524d 5f8c 518d 65b0 521d 7d42 751f 8ca9 58f0 5439 6f14 6295 6355
  4e00 4e09 904a 5de6 4e2d 53f3 6307 8d70 6253 7981 7a7a 5408 6e80 6709 6708 7533 5272 55b6 914d
  1f240: 3014+672c+3015 3014+4e09+3015 3014+4e8c+3015 3014+5b89+3015 3014+70b9+3015 3014+6253+3015
  3014+76d7+3015 3014+52dd+3015 3014+6557+3015 1f250: 5f97 53ef 1fbf0: 30 31 32 33 34 35 36
  37 38 39"

/-- The classes of marks, but for class 0. -/
def markClasses : PartTable := .ofText "
  300: e6 e6 e6 e6 e6 e6 e6 e6 e6 e6 e6 e6 e6 e6 e6 e6 e6 e6 e6 e6 e6 e8 dc dc dc dc e8 d8 dc dc dc
  dc dc ca ca dc dc dc dc ca ca dc dc dc dc dc dc dc dc dc dc dc 1 1 1 1 1 dc dc dc dc e6 e6 e6 342:
  e6 345: f0 e6 dc dc dc e6 e6 e6 dc dc 350: e6 e6 e6 dc dc dc dc e6 e8 dc dc e6 e9 ea ea e9 ea ea
  e9 e6 e6 e6 e6 e6 e6 e6 e6 e6 e6 e6 e6 e6 483: e6 e6 e6 e6 e6 591: dc e6 e6 e6 e6 dc e6 e6 e6 de
  dc e6 e6 e6 e6 e6 e6 dc dc dc dc dc dc e6 e6 dc e6 e6 de e4 e6 a b c d e f 10 11 12 13 13 14 15 16
  5bf: 17 5c1: 18 19 5c4: e6 dc 5c7: 12 610: e6 e6 e6 e6 e6 e6 e6 e6 1e 1f 20 64b: 1b 1c 1d 1e 1f 20
  21 22 e6 e6 dc dc e6 e6 e6 e6 e6 dc e6 e6 dc 670: 23 6d6: e6 e6 e6 e6 e6 e6 e6 6df: e6 e6 e6 e6 dc
  e6 6e7: e6 e6 6ea: dc e6 e6 dc 711: 24 730: e6 dc e6 e6 dc e6 e6 dc dc dc e6 dc dc e6 dc e6 e6 e6
  dc e6 dc e6 dc e6 dc e6 e6 7eb: e6 e6 e6 e6 e6 e6 e6 dc e6 7fd: dc 816: e6 e6 e6 e6 81b: e6 e6 e6
  e6 e6 e6 e6 e6 e6 825: e6 e6 e6 829: e6 e6 e6 e6 e6 859: dc dc dc 897: e6 e6 dc dc dc e6 e6 e6 e6
  8ca: e6 e6 e6 e6 e6 dc dc dc dc dc e6 e6 e6 e6 e6 e6 e6 e6 e6 e6 e6 e6 e6 e6 8e3: dc e6 e6 dc e6
  e6 dc e6 e6 e6 dc dc dc 1b 1c 1d e6 e6 e6 dc e6 e6 dc dc e6 e6 e6 e6 e6 93c: 7 94d: 9 951: e6 dc
  e6 e6 9bc: 7 9cd: 9 9fe: e6 a3c: 7 a4d: 9 abc: 7 acd: 9 b3c: 7 b4d: 9 bcd: 9 c3c: 7 c4d: 9 c55: 54
  5b cbc: 7 ccd: 9 d3b: 9 9 d4d: 9 dca: 9 e38: 67 67 9 e48: 6b 6b 6b 6b eb8: 76 76 9 ec8: 7a 7a 7a
  7a f18: dc dc f35: dc f37: dc f39: d8 f71: 81 82 f74: 84 f7a: 82 82 82 82 f80: 82 f82: e6 e6 9
  f86: e6 e6 fc6: dc 1037: 7 1039: 9 9 108d: dc 135d: e6 e6 e6 1714: 9 9 1734: 9 17d2: 9 17dd: e6
  18a9: e4 1939: de e6 dc 1a17: e6 dc 1a60: 9 1a75: e6 e6 e6 e6 e6 e6 e6 e6 1a7f: dc 1ab0: e6 e6 e6
  e6 e6 dc dc dc dc dc dc e6 e6 dc 1abf: dc dc e6 e6 dc dc e6 e6 e6 e6 e6 dc e6 e6 e6 e6 e6 e6 e6 e6
  e6 e6 e6 e6 e6 e6 e6 e6 e6 e6 dc 1ae0: e6 e6 e6 e6 e6 e6 dc e6 e6 e6 e6 ea 1b34: 7 1b44: 9 1b6b:
  e6 dc e6 e6 e6 e6 e6 e6 e6 1baa: 9 9 1be6: 7 1bf2: 9 9 1c37: 7 1cd0: e6 e6 e6 1cd4: 1 dc dc dc dc
  dc e6 e6 dc dc dc dc e6 1ce2: 1 1 1 1 1 1 1 1ced: dc 1cf4: e6 1cf8: e6 e6 1dc0: e6 e6 dc e6 e6 e6
  e6 e6 e6 e6 dc e6 e6 ea d6 dc ca e6 e6 e6 e6 e6 e6 e6 e6 e6 e6 e6 e6 e6 e6 e6 e6 e6 e6 e6 e6 e6 e6
  e6 e6 e6 e6 e6 e6 e6 e6 e6 e6 e6 e6 e6 e6 e6 e8 e4 e4 dc da e6 e9 dc e6 dc 20d0: e6 e6 1 1 e6 e6
  e6 e6 1 1 1 e6 e6 20e1: e6 20e5: 1 1 e6 dc e6 1 1 dc dc dc dc e6 2cef: e6 e6 e6 2d7f: 9 2de0: e6
  e6 e6 e6 e6 e6 e6 e6 e6 e6 e6 e6 e6 e6 e6 e6 e6 e6 e6 e6 e6 e6 e6 e6 e6 e6 e6 e6 e6 e6 e6 e6 302a:
  da e4 e8 de e0 e0 3099: 8 8 a66f: e6 a674: e6 e6 e6 e6 e6 e6 e6 e6 e6 e6 a69e: e6 e6 a6f0: e6 e6
  a806: 9 a82c: 9 a8c4: 9 a8e0: e6 e6 e6 e6 e6 e6 e6 e6 e6 e6 e6 e6 e6 e6 e6 e6 e6 e6 a92b: dc dc dc
  a953: 9 a9b3: 7 a9c0: 9 aab0: e6 aab2: e6 e6 dc aab7: e6 e6 aabe: e6 e6 aac1: e6 aaf6: 9 abed: 9
  fb1e: 1a fe20: e6 e6 e6 e6 e6 e6 e6 dc dc dc dc dc dc dc e6 e6 101fd: dc 102e0: dc 10376: e6 e6 e6
  e6 e6 10a0d: dc 10a0f: e6 10a38: e6 1 dc 10a3f: 9 10ae5: e6 dc 10d24: e6 e6 e6 e6 10d69: e6 e6 e6
  e6 e6 10eab: e6 e6 10efa: dc dc 10efd: dc dc dc 10f46: dc dc e6 e6 e6 dc e6 dc dc dc dc 10f82: e6
  dc e6 dc 11046: 9 11070: 9 1107f: 9 110b9: 9 7 11100: e6 e6 e6 11133: 9 9 11173: 7 111c0: 9 111ca:
  7 11235: 9 7 112e9: 7 9 1133b: 7 7 1134d: 9 11366: e6 e6 e6 e6 e6 e6 e6 11370: e6 e6 e6 e6 e6
  113ce: 9 9 9 11442: 9 11446: 7 1145e: e6 114c2: 9 7 115bf: 9 7 1163f: 9 116b6: 9 7 1172b: 9 11839:
  9 7 1193d: 9 9 11943: 7 119e0: 9 11a34: 9 11a47: 9 11a99: 9 11c3f: 9 11d42: 7 11d44: 9 9 11d97: 9
  11f41: 9 9 1612f: 9 16af0: 1 1 1 1 1 16b30: e6 e6 e6 e6 e6 e6 e6 16ff0: 6 6 1bc9e: 1 1d165: d8 d8
  1 1 1 1d16d: e2 d8 d8 d8 d8 d8 1d17b: dc dc dc dc dc dc dc dc 1d185: e6 e6 e6 e6 e6 dc dc 1d1aa:
  e6 e6 e6 e6 1d242: e6 e6 e6 1e000: e6 e6 e6 e6 e6 e6 e6 1e008: e6 e6 e6 e6 e6 e6 e6 e6 e6 e6 e6 e6
  e6 e6 e6 e6 e6 1e01b: e6 e6 e6 e6 e6 e6 e6 1e023: e6 e6 1e026: e6 e6 e6 e6 e6 1e08f: e6 1e130: e6
  e6 e6 e6 e6 e6 e6 1e2ae: e6 1e2ec: e6 e6 e6 e6 1e4ec: e8 e8 dc e6 1e5ee: e6 dc 1e6e3: e6 1e6e6: e6
  1e6ee: e6 e6 1e6f5: e6 1e8d0: dc dc dc dc dc dc dc 1e944: e6 e6 e6 e6 e6 e6 7"

/-! ### Taking apart -/

/-- The class of a character, which is 0 but for some marks. -/
def markClass (n : Nat) : Nat :=
  if n < 0x300 then 0 else ((markClasses.find? n).bind List.head?).getD 0

/-- The letters of a syllable of Hangul. -/
def syllableLetters? (n : Nat) : Option (List Nat) :=
  if 0xac00 ≤ n ∧ n < 0xac00 + 11172 then
    let i := n - 0xac00
    let tail := i % 28
    some ([0x1100 + i / 588, 0x1161 + i % 588 / 28] ++ if tail = 0 then [] else [0x11a7 + tail])
  else none

/-- The parts of a character that have no parts themselves; `fuel` bounds how deep they lie. -/
def canonicalParts : Nat → Nat → List Nat
  | 0, n => [n]
  | fuel + 1, n =>
    if n < 0xc0 then [n]
    else
      match composedPairs.find? n with
      | some parts => parts.flatMap (canonicalParts fuel)
      | none => (canonicalOthers.find? n).or (syllableLetters? n) |>.getD [n]

/-- The parts of a character; where only the plain shape counts, those of that. -/
def partsOf (isCompatible : Bool) (n : Nat) : List Nat :=
  match if isCompatible then otherShapes.find? n else none with
  | some parts => parts
  | none => canonicalParts 8 n

end Text

end ScriptBridge
