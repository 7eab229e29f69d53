import StateMachine.Text.Basic

/-!
# Normal form of names

Two spellings of a name that look alike stand for the same name: a ligature
for its letters, a letter of a special width or shape for the plain one, a
letter with a mark after it for the letter that has the mark. The *normal
form* of a name is found in three steps:

* each character is taken apart (`apart`): into the characters it is a variant
  of, and a letter with a mark into the letter and the mark;
* marks that follow one another are sorted by their class (`sortMarks`);
* marks are put together again with the letter before them, where there is one
  character for both (`together`).

The tables hold the characters that can stand in names.
-/

namespace StateMachine.Text

/-- The classes of the marks: first and last code point, and class. -/
def markClassRows : List (Nat × Nat × Nat) := [
    (0x300, 0x314, 230), (0x315, 0x315, 232), (0x316, 0x319, 220), (0x31a, 0x31a, 232),
    (0x31b, 0x31b, 216), (0x31c, 0x320, 220), (0x321, 0x322, 202), (0x323, 0x326, 220),
    (0x327, 0x328, 202), (0x329, 0x333, 220), (0x334, 0x338, 1), (0x339, 0x33c, 220),
    (0x33d, 0x344, 230), (0x345, 0x345, 240), (0x346, 0x346, 230), (0x347, 0x349, 220),
    (0x34a, 0x34c, 230), (0x34d, 0x34e, 220), (0x350, 0x352, 230), (0x353, 0x356, 220),
    (0x357, 0x357, 230), (0x358, 0x358, 232), (0x359, 0x35a, 220), (0x35b, 0x35b, 230),
    (0x35c, 0x35c, 233), (0x35d, 0x35e, 234), (0x35f, 0x35f, 233), (0x360, 0x361, 234),
    (0x362, 0x362, 233), (0x363, 0x36f, 230), (0x483, 0x487, 230), (0x591, 0x591, 220),
    (0x592, 0x595, 230), (0x596, 0x596, 220), (0x597, 0x599, 230), (0x59a, 0x59a, 222),
    (0x59b, 0x59b, 220), (0x59c, 0x5a1, 230), (0x5a2, 0x5a7, 220), (0x5a8, 0x5a9, 230),
    (0x5aa, 0x5aa, 220), (0x5ab, 0x5ac, 230), (0x5ad, 0x5ad, 222), (0x5ae, 0x5ae, 228),
    (0x5af, 0x5af, 230), (0x5b0, 0x5b0, 10), (0x5b1, 0x5b1, 11), (0x5b2, 0x5b2, 12),
    (0x5b3, 0x5b3, 13), (0x5b4, 0x5b4, 14), (0x5b5, 0x5b5, 15), (0x5b6, 0x5b6, 16),
    (0x5b7, 0x5b7, 17), (0x5b8, 0x5b8, 18), (0x5b9, 0x5ba, 19), (0x5bb, 0x5bb, 20),
    (0x5bc, 0x5bc, 21), (0x5bd, 0x5bd, 22), (0x5bf, 0x5bf, 23), (0x5c1, 0x5c1, 24),
    (0x5c2, 0x5c2, 25), (0x5c4, 0x5c4, 230), (0x5c5, 0x5c5, 220), (0x5c7, 0x5c7, 18),
    (0x610, 0x617, 230), (0x618, 0x618, 30), (0x619, 0x619, 31), (0x61a, 0x61a, 32),
    (0x64b, 0x64b, 27), (0x64c, 0x64c, 28), (0x64d, 0x64d, 29), (0x64e, 0x64e, 30),
    (0x64f, 0x64f, 31), (0x650, 0x650, 32), (0x651, 0x651, 33), (0x652, 0x652, 34),
    (0x653, 0x654, 230), (0x655, 0x656, 220), (0x657, 0x65b, 230), (0x65c, 0x65c, 220),
    (0x65d, 0x65e, 230), (0x65f, 0x65f, 220), (0x670, 0x670, 35), (0x6d6, 0x6dc, 230),
    (0x6df, 0x6e2, 230), (0x6e3, 0x6e3, 220), (0x6e4, 0x6e4, 230), (0x6e7, 0x6e8, 230),
    (0x6ea, 0x6ea, 220), (0x6eb, 0x6ec, 230), (0x6ed, 0x6ed, 220), (0x711, 0x711, 36),
    (0x730, 0x730, 230), (0x731, 0x731, 220), (0x732, 0x733, 230), (0x734, 0x734, 220),
    (0x735, 0x736, 230), (0x737, 0x739, 220), (0x73a, 0x73a, 230), (0x73b, 0x73c, 220),
    (0x73d, 0x73d, 230), (0x73e, 0x73e, 220), (0x73f, 0x741, 230), (0x742, 0x742, 220),
    (0x743, 0x743, 230), (0x744, 0x744, 220), (0x745, 0x745, 230), (0x746, 0x746, 220),
    (0x747, 0x747, 230), (0x748, 0x748, 220), (0x749, 0x74a, 230), (0x7eb, 0x7f1, 230),
    (0x7f2, 0x7f2, 220), (0x7f3, 0x7f3, 230), (0x7fd, 0x7fd, 220), (0x816, 0x819, 230),
    (0x81b, 0x823, 230), (0x825, 0x827, 230), (0x829, 0x82d, 230), (0x859, 0x85b, 220),
    (0x898, 0x898, 230), (0x899, 0x89b, 220), (0x89c, 0x89f, 230), (0x8ca, 0x8ce, 230),
    (0x8cf, 0x8d3, 220), (0x8d4, 0x8e1, 230), (0x8e3, 0x8e3, 220), (0x8e4, 0x8e5, 230),
    (0x8e6, 0x8e6, 220), (0x8e7, 0x8e8, 230), (0x8e9, 0x8e9, 220), (0x8ea, 0x8ec, 230),
    (0x8ed, 0x8ef, 220), (0x8f0, 0x8f0, 27), (0x8f1, 0x8f1, 28), (0x8f2, 0x8f2, 29),
    (0x8f3, 0x8f5, 230), (0x8f6, 0x8f6, 220), (0x8f7, 0x8f8, 230), (0x8f9, 0x8fa, 220),
    (0x8fb, 0x8ff, 230), (0x93c, 0x93c, 7), (0x94d, 0x94d, 9), (0x951, 0x951, 230),
    (0x952, 0x952, 220), (0x953, 0x954, 230), (0x9bc, 0x9bc, 7), (0x9cd, 0x9cd, 9),
    (0x9fe, 0x9fe, 230), (0xa3c, 0xa3c, 7), (0xa4d, 0xa4d, 9), (0xabc, 0xabc, 7), (0xacd, 0xacd, 9),
    (0xb3c, 0xb3c, 7), (0xb4d, 0xb4d, 9), (0xbcd, 0xbcd, 9), (0xc3c, 0xc3c, 7), (0xc4d, 0xc4d, 9),
    (0xc55, 0xc55, 84), (0xc56, 0xc56, 91), (0xcbc, 0xcbc, 7), (0xccd, 0xccd, 9), (0xd3b, 0xd3c, 9),
    (0xd4d, 0xd4d, 9), (0xdca, 0xdca, 9), (0xe38, 0xe39, 103), (0xe3a, 0xe3a, 9),
    (0xe48, 0xe4b, 107), (0xeb8, 0xeb9, 118), (0xeba, 0xeba, 9), (0xec8, 0xecb, 122),
    (0xf18, 0xf19, 220), (0xf35, 0xf35, 220), (0xf37, 0xf37, 220), (0xf39, 0xf39, 216),
    (0xf71, 0xf71, 129), (0xf72, 0xf72, 130), (0xf74, 0xf74, 132), (0xf7a, 0xf7d, 130),
    (0xf80, 0xf80, 130), (0xf82, 0xf83, 230), (0xf84, 0xf84, 9), (0xf86, 0xf87, 230),
    (0xfc6, 0xfc6, 220), (0x1037, 0x1037, 7), (0x1039, 0x103a, 9), (0x108d, 0x108d, 220),
    (0x135d, 0x135f, 230), (0x1714, 0x1715, 9), (0x1734, 0x1734, 9), (0x17d2, 0x17d2, 9),
    (0x17dd, 0x17dd, 230), (0x18a9, 0x18a9, 228), (0x1939, 0x1939, 222), (0x193a, 0x193a, 230),
    (0x193b, 0x193b, 220), (0x1a17, 0x1a17, 230), (0x1a18, 0x1a18, 220), (0x1a60, 0x1a60, 9),
    (0x1a75, 0x1a7c, 230), (0x1a7f, 0x1a7f, 220), (0x1ab0, 0x1ab4, 230), (0x1ab5, 0x1aba, 220),
    (0x1abb, 0x1abc, 230), (0x1abd, 0x1abd, 220), (0x1abf, 0x1ac0, 220), (0x1ac1, 0x1ac2, 230),
    (0x1ac3, 0x1ac4, 220), (0x1ac5, 0x1ac9, 230), (0x1aca, 0x1aca, 220), (0x1acb, 0x1ace, 230),
    (0x1b34, 0x1b34, 7), (0x1b44, 0x1b44, 9), (0x1b6b, 0x1b6b, 230), (0x1b6c, 0x1b6c, 220),
    (0x1b6d, 0x1b73, 230), (0x1baa, 0x1bab, 9), (0x1be6, 0x1be6, 7), (0x1bf2, 0x1bf3, 9),
    (0x1c37, 0x1c37, 7), (0x1cd0, 0x1cd2, 230), (0x1cd4, 0x1cd4, 1), (0x1cd5, 0x1cd9, 220),
    (0x1cda, 0x1cdb, 230), (0x1cdc, 0x1cdf, 220), (0x1ce0, 0x1ce0, 230), (0x1ce2, 0x1ce8, 1),
    (0x1ced, 0x1ced, 220), (0x1cf4, 0x1cf4, 230), (0x1cf8, 0x1cf9, 230), (0x1dc0, 0x1dc1, 230),
    (0x1dc2, 0x1dc2, 220), (0x1dc3, 0x1dc9, 230), (0x1dca, 0x1dca, 220), (0x1dcb, 0x1dcc, 230),
    (0x1dcd, 0x1dcd, 234), (0x1dce, 0x1dce, 214), (0x1dcf, 0x1dcf, 220), (0x1dd0, 0x1dd0, 202),
    (0x1dd1, 0x1df5, 230), (0x1df6, 0x1df6, 232), (0x1df7, 0x1df8, 228), (0x1df9, 0x1df9, 220),
    (0x1dfa, 0x1dfa, 218), (0x1dfb, 0x1dfb, 230), (0x1dfc, 0x1dfc, 233), (0x1dfd, 0x1dfd, 220),
    (0x1dfe, 0x1dfe, 230), (0x1dff, 0x1dff, 220), (0x20d0, 0x20d1, 230), (0x20d2, 0x20d3, 1),
    (0x20d4, 0x20d7, 230), (0x20d8, 0x20da, 1), (0x20db, 0x20dc, 230), (0x20e1, 0x20e1, 230),
    (0x20e5, 0x20e6, 1), (0x20e7, 0x20e7, 230), (0x20e8, 0x20e8, 220), (0x20e9, 0x20e9, 230),
    (0x20ea, 0x20eb, 1), (0x20ec, 0x20ef, 220), (0x20f0, 0x20f0, 230), (0x2cef, 0x2cf1, 230),
    (0x2d7f, 0x2d7f, 9), (0x2de0, 0x2dff, 230), (0x302a, 0x302a, 218), (0x302b, 0x302b, 228),
    (0x302c, 0x302c, 232), (0x302d, 0x302d, 222), (0x302e, 0x302f, 224), (0x3099, 0x309a, 8),
    (0xa66f, 0xa66f, 230), (0xa674, 0xa67d, 230), (0xa69e, 0xa69f, 230), (0xa6f0, 0xa6f1, 230),
    (0xa806, 0xa806, 9), (0xa82c, 0xa82c, 9), (0xa8c4, 0xa8c4, 9), (0xa8e0, 0xa8f1, 230),
    (0xa92b, 0xa92d, 220), (0xa953, 0xa953, 9), (0xa9b3, 0xa9b3, 7), (0xa9c0, 0xa9c0, 9),
    (0xaab0, 0xaab0, 230), (0xaab2, 0xaab3, 230), (0xaab4, 0xaab4, 220), (0xaab7, 0xaab8, 230),
    (0xaabe, 0xaabf, 230), (0xaac1, 0xaac1, 230), (0xaaf6, 0xaaf6, 9), (0xabed, 0xabed, 9),
    (0xfb1e, 0xfb1e, 26), (0xfe20, 0xfe26, 230), (0xfe27, 0xfe2d, 220), (0xfe2e, 0xfe2f, 230),
    (0x101fd, 0x101fd, 220), (0x102e0, 0x102e0, 220), (0x10376, 0x1037a, 230),
    (0x10a0d, 0x10a0d, 220), (0x10a0f, 0x10a0f, 230), (0x10a38, 0x10a38, 230),
    (0x10a39, 0x10a39, 1), (0x10a3a, 0x10a3a, 220), (0x10a3f, 0x10a3f, 9), (0x10ae5, 0x10ae5, 230),
    (0x10ae6, 0x10ae6, 220), (0x10d24, 0x10d27, 230), (0x10eab, 0x10eac, 230),
    (0x10f46, 0x10f47, 220), (0x10f48, 0x10f4a, 230), (0x10f4b, 0x10f4b, 220),
    (0x10f4c, 0x10f4c, 230), (0x10f4d, 0x10f50, 220), (0x10f82, 0x10f82, 230),
    (0x10f83, 0x10f83, 220), (0x10f84, 0x10f84, 230), (0x10f85, 0x10f85, 220),
    (0x11046, 0x11046, 9), (0x11070, 0x11070, 9), (0x1107f, 0x1107f, 9), (0x110b9, 0x110b9, 9),
    (0x110ba, 0x110ba, 7), (0x11100, 0x11102, 230), (0x11133, 0x11134, 9), (0x11173, 0x11173, 7),
    (0x111c0, 0x111c0, 9), (0x111ca, 0x111ca, 7), (0x11235, 0x11235, 9), (0x11236, 0x11236, 7),
    (0x112e9, 0x112e9, 7), (0x112ea, 0x112ea, 9), (0x1133b, 0x1133c, 7), (0x1134d, 0x1134d, 9),
    (0x11366, 0x1136c, 230), (0x11370, 0x11374, 230), (0x11442, 0x11442, 9), (0x11446, 0x11446, 7),
    (0x1145e, 0x1145e, 230), (0x114c2, 0x114c2, 9), (0x114c3, 0x114c3, 7), (0x115bf, 0x115bf, 9),
    (0x115c0, 0x115c0, 7), (0x1163f, 0x1163f, 9), (0x116b6, 0x116b6, 9), (0x116b7, 0x116b7, 7),
    (0x1172b, 0x1172b, 9), (0x11839, 0x11839, 9), (0x1183a, 0x1183a, 7), (0x1193d, 0x1193e, 9),
    (0x11943, 0x11943, 7), (0x119e0, 0x119e0, 9), (0x11a34, 0x11a34, 9), (0x11a47, 0x11a47, 9),
    (0x11a99, 0x11a99, 9), (0x11c3f, 0x11c3f, 9), (0x11d42, 0x11d42, 7), (0x11d44, 0x11d45, 9),
    (0x11d97, 0x11d97, 9), (0x16af0, 0x16af4, 1), (0x16b30, 0x16b36, 230), (0x16ff0, 0x16ff1, 6),
    (0x1bc9e, 0x1bc9e, 1), (0x1d165, 0x1d166, 216), (0x1d167, 0x1d169, 1), (0x1d16d, 0x1d16d, 226),
    (0x1d16e, 0x1d172, 216), (0x1d17b, 0x1d182, 220), (0x1d185, 0x1d189, 230),
    (0x1d18a, 0x1d18b, 220), (0x1d1aa, 0x1d1ad, 230), (0x1d242, 0x1d244, 230),
    (0x1e000, 0x1e006, 230), (0x1e008, 0x1e018, 230), (0x1e01b, 0x1e021, 230),
    (0x1e023, 0x1e024, 230), (0x1e026, 0x1e02a, 230), (0x1e130, 0x1e136, 230),
    (0x1e2ae, 0x1e2ae, 230), (0x1e2ec, 0x1e2ef, 230), (0x1e8d0, 0x1e8d6, 220),
    (0x1e944, 0x1e949, 230), (0x1e94a, 0x1e94a, 7)]

/-- The characters that are a letter and a mark: the letter, the mark, and the
    character for both. -/
def compositionTable : String := String.join [
    "ÀÀÁÁÂÂÃÃÄÄÅÅÇÇÈÈÉÉÊÊËËÌÌÍÍÎÎÏÏÑÑÒÒÓÓÔÔÕÕÖÖÙÙÚÚÛÛÜÜÝÝààááââãã",
    "ääååççèèééêêëëììííîîïïññòòóóôôõõööùùúúûûüüýýÿÿĀĀāāĂĂăăĄĄąąĆĆ",
    "ććĈĈĉĉĊĊċċČČččĎĎďďĒĒēēĔĔĕĕĖĖėėĘĘęęĚĚěěĜĜĝĝĞĞğğĠĠġġĢĢģģĤĤĥĥĨĨ",
    "ĩĩĪĪīīĬĬĭĭĮĮįįİİĴĴĵĵĶĶķķĹĹĺĺĻĻļļĽĽľľŃŃńńŅŅņņŇŇňňŌŌōōŎŎŏŏŐŐőő",
    "ŔŔŕŕŖŖŗŗŘŘřřŚŚśśŜŜŝŝŞŞşşŠŠššŢŢţţŤŤťťŨŨũũŪŪūūŬŬŭŭŮŮůůŰŰűűŲŲųų",
    "ŴŴŵŵŶŶŷŷŸŸŹŹźźŻŻżżŽŽžžƠƠơơƯƯưưǍǍǎǎǏǏǐǐǑǑǒǒǓǓǔǔǕǕǖǖǗǗǘǘǙǙǚǚǛǛ",
    "ǜǜǞǞǟǟǠǠǡǡǢǢǣǣǦǦǧǧǨǨǩǩǪǪǫǫǬǬǭǭǮǮǯǯǰǰǴǴǵǵǸǸǹǹǺǺǻǻǼǼǽǽǾǾǿǿȀȀȁȁ",
    "ȂȂȃȃȄȄȅȅȆȆȇȇȈȈȉȉȊȊȋȋȌȌȍȍȎȎȏȏȐȐȑȑȒȒȓȓȔȔȕȕȖȖȗȗȘȘșșȚȚțțȞȞȟȟȦȦȧȧ",
    "ȨȨȩȩȪȪȫȫȬȬȭȭȮȮȯȯȰȰȱȱȲȲȳȳΆΆΈΈΉΉΊΊΌΌΎΎΏΏΐΐΪΪΫΫάάέέήήίίΰΰϊϊϋϋόό",
    "ύύώώϓϓϔϔЀЀЁЁЃЃЇЇЌЌЍЍЎЎЙЙййѐѐёёѓѓїїќќѝѝўўѶѶѷѷӁӁӂӂӐӐӑӑӒӒӓӓӖӖӗӗ",
    "ӚӚӛӛӜӜӝӝӞӞӟӟӢӢӣӣӤӤӥӥӦӦӧӧӪӪӫӫӬӬӭӭӮӮӯӯӰӰӱӱӲӲӳӳӴӴӵӵӸӸӹӹآآأأؤؤإإ",
    "ئئۀۀۂۂۓۓऩऩऱऱऴऴোোৌৌୈୈୋୋୌୌஔஔொொோோௌௌైైೀೀೇೇೈೈೊೊೋೋൊൊോോൌൌේේොොෝෝෞෞဦဦ",
    "ᬆᬆᬈᬈᬊᬊᬌᬌᬎᬎᬒᬒᬻᬻᬽᬽᭀᭀᭁᭁᭃᭃḀḀḁḁḂḂḃḃḄḄḅḅḆḆḇḇḈḈḉḉḊḊḋḋḌḌḍḍḎḎḏḏḐḐḑḑḒḒ",
    "ḓḓḔḔḕḕḖḖḗḗḘḘḙḙḚḚḛḛḜḜḝḝḞḞḟḟḠḠḡḡḢḢḣḣḤḤḥḥḦḦḧḧḨḨḩḩḪḪḫḫḬḬḭḭḮḮḯḯḰḰ",
    "ḱḱḲḲḳḳḴḴḵḵḶḶḷḷḸḸḹḹḺḺḻḻḼḼḽḽḾḾḿḿṀṀṁṁṂṂṃṃṄṄṅṅṆṆṇṇṈṈṉṉṊṊṋṋṌṌṍṍṎṎ",
    "ṏṏṐṐṑṑṒṒṓṓṔṔṕṕṖṖṗṗṘṘṙṙṚṚṛṛṜṜṝṝṞṞṟṟṠṠṡṡṢṢṣṣṤṤṥṥṦṦṧṧṨṨṩṩṪṪṫṫṬṬ",
    "ṭṭṮṮṯṯṰṰṱṱṲṲṳṳṴṴṵṵṶṶṷṷṸṸṹṹṺṺṻṻṼṼṽṽṾṾṿṿẀẀẁẁẂẂẃẃẄẄẅẅẆẆẇẇẈẈẉẉẊẊ",
    "ẋẋẌẌẍẍẎẎẏẏẐẐẑẑẒẒẓẓẔẔẕẕẖẖẗẗẘẘẙẙẛẛẠẠạạẢẢảảẤẤấấẦẦầầẨẨẩẩẪẪẫẫẬẬậậ",
    "ẮẮắắẰẰằằẲẲẳẳẴẴẵẵẶẶặặẸẸẹẹẺẺẻẻẼẼẽẽẾẾếếỀỀềềỂỂểểỄỄễễỆỆệệỈỈỉỉỊỊịị",
    "ỌỌọọỎỎỏỏỐỐốốỒỒồồỔỔổổỖỖỗỗỘỘộộỚỚớớỜỜờờỞỞởởỠỠỡỡỢỢợợỤỤụụỦỦủủỨỨứứ",
    "ỪỪừừỬỬửửỮỮữữỰỰựựỲỲỳỳỴỴỵỵỶỶỷỷỸỸỹỹἀἀἁἁἂἂἃἃἄἄἅἅἆἆἇἇἈἈἉἉἊἊἋἋἌἌἍἍ",
    "ἎἎἏἏἐἐἑἑἒἒἓἓἔἔἕἕἘἘἙἙἚἚἛἛἜἜἝἝἠἠἡἡἢἢἣἣἤἤἥἥἦἦἧἧἨἨἩἩἪἪἫἫἬἬἭἭἮἮἯἯ",
    "ἰἰἱἱἲἲἳἳἴἴἵἵἶἶἷἷἸἸἹἹἺἺἻἻἼἼἽἽἾἾἿἿὀὀὁὁὂὂὃὃὄὄὅὅὈὈὉὉὊὊὋὋὌὌὍὍὐὐὑὑ",
    "ὒὒὓὓὔὔὕὕὖὖὗὗὙὙὛὛὝὝὟὟὠὠὡὡὢὢὣὣὤὤὥὥὦὦὧὧὨὨὩὩὪὪὫὫὬὬὭὭὮὮὯὯὰὰὲὲὴὴὶὶ",
    "ὸὸὺὺὼὼᾀᾀᾁᾁᾂᾂᾃᾃᾄᾄᾅᾅᾆᾆᾇᾇᾈᾈᾉᾉᾊᾊᾋᾋᾌᾌᾍᾍᾎᾎᾏᾏᾐᾐᾑᾑᾒᾒᾓᾓᾔᾔᾕᾕᾖᾖᾗᾗᾘᾘᾙᾙᾚᾚ",
    "ᾛᾛᾜᾜᾝᾝᾞᾞᾟᾟᾠᾠᾡᾡᾢᾢᾣᾣᾤᾤᾥᾥᾦᾦᾧᾧᾨᾨᾩᾩᾪᾪᾫᾫᾬᾬᾭᾭᾮᾮᾯᾯᾰᾰᾱᾱᾲᾲᾳᾳᾴᾴᾶᾶᾷᾷᾸᾸᾹᾹ",
    "ᾺᾺᾼᾼῂῂῃῃῄῄῆῆῇῇῈῈῊῊῌῌῐῐῑῑῒῒῖῖῗῗῘῘῙῙῚῚῠῠῡῡῢῢῤῤῥῥῦῦῧῧῨῨῩῩῪῪῬῬῲῲ",
    "ῳῳῴῴῶῶῷῷῸῸῺῺῼῼががぎぎぐぐげげごござざじじずずぜぜぞぞだだぢぢづづででどどばばぱぱびびぴぴぶぶ",
    "ぷぷべべぺぺぼぼぽぽゔゔゞゞガガギギググゲゲゴゴザザジジズズゼゼゾゾダダヂヂヅヅデデドドババパパ",
    "ビビピピブブププベベペペボボポポヴヴヷヷヸヸヹヹヺヺヾヾ𑂚𑂚𑂜𑂜𑂫𑂫𑄮𑄮𑄯𑄯𑍋𑍋𑍌𑍌𑒻𑒻𑒼𑒼𑒾𑒾𑖺𑖺𑖻𑖻𑤸𑤸"]

/-- The characters that are variants of others, each with those after it: the first
    part. -/
def variantTableFirst : String := String.join [
    "ªa µμ ºo ĲIJ ĳij ĿL· ŀl· ŉʼn ſs ǄDŽ ǅDž ǆdž ǇLJ ǈLj ǉlj ǊNJ ǋNj ǌnj ǱDZ ǲDz ǳdz ʰh ʱɦ ʲj ",
    "ʳr ʴɹ ʵɻ ʶʁ ʷw ʸy ˠɣ ˡl ˢs ˣx ˤʕ ̀̀ ́́ ̓̓ ̈́̈́ ʹʹ ·· ϐβ ϑθ ϒΥ ϓΎ ϔΫ ϕφ ϖπ ϰκ ϱρ ϲς ϴΘ ϵε ",
    "ϹΣ ևեւ ٵاٴ ٶوٴ ٷۇٴ ٸيٴ क़क़ ख़ख़ ग़ग़ ज़ज़ ड़ड़ ढ़ढ़ फ़फ़ य़य़ ড়ড় ঢ়ঢ় য়য় ਲ਼ਲ਼ ਸ਼ਸ਼ ਖ਼ਖ਼ ਗ਼ਗ਼ ਜ਼ਜ਼ ",
    "ਫ਼ਫ਼ ଡ଼ଡ଼ ଢ଼ଢ଼ ำํา ຳໍາ ໜຫນ ໝຫມ གྷགྷ ཌྷཌྷ དྷདྷ བྷབྷ ཛྷཛྷ ཀྵཀྵ ཱཱིི ཱཱུུ ྲྀྲྀ ཷྲཱྀ ླྀླྀ ཹླཱྀ ཱཱྀྀ ྒྷྒྷ ྜྷྜྷ ",
    "ྡྷྡྷ ྦྷྦྷ ྫྷྫྷ ྐྵྐྵ ჼნ ᴬA ᴭÆ ᴮB ᴰD ᴱE ᴲƎ ᴳG ᴴH ᴵI ᴶJ ᴷK ᴸL ᴹM ᴺN ᴼO ᴽȢ ᴾP ᴿR ᵀT ᵁU ᵂW ᵃa ᵄɐ ",
    "ᵅɑ ᵆᴂ ᵇb ᵈd ᵉe ᵊə ᵋɛ ᵌɜ ᵍg ᵏk ᵐm ᵑŋ ᵒo ᵓɔ ᵔᴖ ᵕᴗ ᵖp ᵗt ᵘu ᵙᴝ ᵚɯ ᵛv ᵜᴥ ᵝβ ᵞγ ᵟδ ᵠφ ᵡχ ᵢi ᵣr ",
    "ᵤu ᵥv ᵦβ ᵧγ ᵨρ ᵩφ ᵪχ ᵸн ᶛɒ ᶜc ᶝɕ ᶞð ᶟɜ ᶠf ᶡɟ ᶢɡ ᶣɥ ᶤɨ ᶥɩ ᶦɪ ᶧᵻ ᶨʝ ᶩɭ ᶪᶅ ᶫʟ ᶬɱ ᶭɰ ᶮɲ ᶯɳ ᶰɴ ",
    "ᶱɵ ᶲɸ ᶳʂ ᶴʃ ᶵƫ ᶶʉ ᶷʊ ᶸᴜ ᶹʋ ᶺʌ ᶻz ᶼʐ ᶽʑ ᶾʒ ᶿθ ẚaʾ ẛṡ άά έέ ήή ίί όό ύύ ώώ ΆΆ ιι ΈΈ ΉΉ ΐΐ ",
    "ΊΊ ΰΰ ΎΎ ΌΌ ΏΏ ⁱi ⁿn ₐa ₑe ₒo ₓx ₔə ₕh ₖk ₗl ₘm ₙn ₚp ₛs ₜt ℂC ℇƐ ℊg ℋH ℌH ℍH ℎh ℏħ ℐI ℑI ",
    "ℒL ℓl ℕN ℙP ℚQ ℛR ℜR ℝR ℤZ ΩΩ ℨZ KK ÅÅ ℬB ℭC ℯe ℰE ℱF ℳM ℴo ℵא ℶב ℷג ℸד ℹi ℼπ ℽγ ℾΓ ℿΠ ⅅD ",
    "ⅆd ⅇe ⅈi ⅉj ⅠI ⅡII ⅢIII ⅣIV ⅤV ⅥVI ⅦVII ⅧVIII ⅨIX ⅩX ⅪXI ⅫXII ⅬL ⅭC ⅮD ⅯM ⅰi ⅱii ⅲiii ⅳiv ",
    "ⅴv ⅵvi ⅶvii ⅷviii ⅸix ⅹx ⅺxi ⅻxii ⅼl ⅽc ⅾd ⅿm ⱼj ⱽV ⵯⵡ 〸十 〹卄 〺卅 ゟより ヿコト ㄱᄀ ㄲᄁ ",
    "ㄳᆪ ㄴᄂ ㄵᆬ ㄶᆭ ㄷᄃ ㄸᄄ ㄹᄅ ㄺᆰ ㄻᆱ ㄼᆲ ㄽᆳ ㄾᆴ ㄿᆵ ㅀᄚ ㅁᄆ ㅂᄇ ㅃᄈ ㅄᄡ ㅅᄉ ㅆᄊ ㅇᄋ ",
    "ㅈᄌ ㅉᄍ ㅊᄎ ㅋᄏ ㅌᄐ ㅍᄑ ㅎᄒ ㅏᅡ ㅐᅢ ㅑᅣ ㅒᅤ ㅓᅥ ㅔᅦ ㅕᅧ ㅖᅨ ㅗᅩ ㅘᅪ ㅙᅫ ㅚᅬ ㅛᅭ ㅜᅮ ㅝᅯ ",
    "ㅞᅰ ㅟᅱ ㅠᅲ ㅡᅳ ㅢᅴ ㅣᅵ ㅤᅠ ㅥᄔ ㅦᄕ ㅧᇇ ㅨᇈ ㅩᇌ ㅪᇎ ㅫᇓ ㅬᇗ ㅭᇙ ㅮᄜ ㅯᇝ ㅰᇟ ㅱᄝ ㅲᄞ ㅳᄠ ",
    "ㅴᄢ ㅵᄣ ㅶᄧ ㅷᄩ ㅸᄫ ㅹᄬ ㅺᄭ ㅻᄮ ㅼᄯ ㅽᄲ ㅾᄶ ㅿᅀ ㆀᅇ ㆁᅌ ㆂᇱ ㆃᇲ ㆄᅗ ㆅᅘ ㆆᅙ ",
    "ㆇᆄ ㆈᆅ ㆉᆈ ㆊᆑ ㆋᆒ ㆌᆔ ㆍᆞ ㆎᆡ ꚜъ ꚝь ꝰꝯ ꟲC ꟳF ꟴQ ꟸĦ ꟹœ ꭜꜧ ꭝꬷ ꭞɫ ꭟꭒ ꭩʍ 豈豈 更更 車車 賈賈 滑滑 ",
    "串串 句句 龜龜 龜龜 契契 金金 喇喇 奈奈 懶懶 癩癩 羅羅 蘿蘿 螺螺 裸裸 邏邏 樂樂 洛洛 烙烙 珞珞 ",
    "落落 酪酪 駱駱 亂亂 卵卵 欄欄 爛爛 蘭蘭 鸞鸞 嵐嵐 濫濫 藍藍 襤襤 拉拉 臘臘 蠟蠟 廊廊 朗朗 浪浪 ",
    "狼狼 郎郎 來來 冷冷 勞勞 擄擄 櫓櫓 爐爐 盧盧 老老 蘆蘆 虜虜 路路 露露 魯魯 鷺鷺 碌碌 祿祿 綠綠 ",
    "菉菉 錄錄 鹿鹿 論論 壟壟 弄弄 籠籠 聾聾 牢牢 磊磊 賂賂 雷雷 壘壘 屢屢 樓樓 淚淚 漏漏 累累 縷縷 ",
    "陋陋 勒勒 肋肋 凜凜 凌凌 稜稜 綾綾 菱菱 陵陵 讀讀 拏拏 樂樂 諾諾 丹丹 寧寧 怒怒 率率 異異 北北 ",
    "磻磻 便便 復復 不不 泌泌 數數 索索 參參 塞塞 省省 葉葉 說說 殺殺 辰辰 沈沈 拾拾 若若 掠掠 略略 ",
    "亮亮 兩兩 凉凉 梁梁 糧糧 良良 諒諒 量量 勵勵 呂呂 女女 廬廬 旅旅 濾濾 礪礪 閭閭 驪驪 麗麗 黎黎 ",
    "力力 曆曆 歷歷 轢轢 年年 憐憐 戀戀 撚撚 漣漣 煉煉 璉璉 秊秊 練練 聯聯 輦輦 蓮蓮 連連 鍊鍊 列列 ",
    "劣劣 咽咽 烈烈 裂裂 說說 廉廉 念念 捻捻 殮殮 簾簾 獵獵 令令 囹囹 寧寧 嶺嶺 怜怜 玲玲 瑩瑩 羚羚 ",
    "聆聆 鈴鈴 零零 靈靈 領領 例例 禮禮 醴醴 隸隸 惡惡 了了 僚僚 寮寮 尿尿 料料 樂樂 燎燎 療療 蓼蓼 ",
    "遼遼 龍龍 暈暈 阮阮 劉劉 杻杻 柳柳 流流 溜溜 琉琉 留留 硫硫 紐紐 類類 六六 戮戮 陸陸 倫倫 崙崙 ",
    "淪淪 輪輪 律律 慄慄 栗栗 率率 隆隆 利利 吏吏 履履 易易 李李 梨梨 泥泥 理理 痢痢 罹罹 裏裏 裡裡 ",
    "里里 離離 匿匿 溺溺 吝吝 燐燐 璘璘 藺藺 隣隣 鱗鱗 麟麟 林林 淋淋 臨臨 立立 笠笠 粒粒 狀狀 炙炙 ",
    "識識 什什 茶茶 刺刺 切切 度度 拓拓 糖糖 宅宅 洞洞 暴暴 輻輻 行行 降降 見見 廓廓 兀兀 嗀嗀 塚塚 ",
    "晴晴 凞凞 猪猪 益益 礼礼 神神 祥祥 福福 靖靖 精精 羽羽 蘒蘒 諸諸 逸逸 都都 飯飯 飼飼 館館 鶴鶴 ",
    "郞郞 隷隷 侮侮 僧僧 免免 勉勉 勤勤 卑卑 喝喝 嘆嘆 器器 塀塀 墨墨 層層 屮屮 悔悔 慨慨 憎憎 懲懲 ",
    "敏敏 既既 暑暑 梅梅 海海 渚渚 漢漢 煮煮 爫爫 琢琢 碑碑 社社 祉祉 祈祈 祐祐 祖祖 祝祝 禍禍 禎禎 ",
    "穀穀 突突 節節 練練 縉縉 繁繁 署署 者者 臭臭 艹艹 艹艹 著著 褐褐 視視 謁謁 謹謹 賓賓 贈贈 辶辶 ",
    "逸逸 難難 響響 頻頻 恵恵 𤋮𤋮 舘舘 並並 况况 全全 侀侀 充充 冀冀 勇勇 勺勺 喝喝 啕啕 喙喙 嗢嗢 ",
    "塚塚 墳墳 奄奄 奔奔 婢婢 嬨嬨 廒廒 廙廙 彩彩 徭徭 惘惘 慎慎 愈愈 憎憎 慠慠 懲懲 戴戴 揄揄 搜搜 ",
    "摒摒 敖敖 晴晴 朗朗 望望 杖杖 歹歹 殺殺 流流 滛滛 滋滋 漢漢 瀞瀞 煮煮 瞧瞧 爵爵 犯犯 猪猪 瑱瑱 ",
    "甆甆 画画 瘝瘝 瘟瘟 益益 盛盛 直直 睊睊 着着 磌磌 窱窱 節節 类类 絛絛 練練 缾缾 者者 荒荒 華華 ",
    "蝹蝹 襁襁 覆覆 視視 調調 諸諸 請請 謁謁 諾諾 諭諭 謹謹 變變 贈贈 輸輸 遲遲 醙醙 鉶鉶 陼陼 難難 ",
    "靖靖 韛韛 響響 頋頋 頻頻 鬒鬒 龜龜 𢡊𢡊 𢡄𢡄 𣏕𣏕 㮝㮝 䀘䀘 䀹䀹 𥉉𥉉 𥳐𥳐 𧻓𧻓 齃齃 龎龎 ﬀff ",
    "ﬁfi ﬂfl ﬃffi ﬄffl ﬅst ﬆst ﬓմն ﬔմե ﬕմի ﬖվն ﬗմխ יִיִ ײַײַ ﬠע ﬡא ﬢד ﬣה ﬤכ ﬥל ﬦם ﬧר ﬨת שׁשׁ שׂשׂ ",
    "שּׁשּׁ שּׂשּׂ אַאַ אָאָ אּאּ בּבּ גּגּ דּדּ הּהּ וּוּ זּזּ טּטּ יּיּ ךּךּ כּכּ לּלּ מּמּ נּנּ סּסּ ףּףּ פּפּ צּצּ ",
    "קּקּ רּרּ שּשּ תּתּ וֹוֹ בֿבֿ כֿכֿ פֿפֿ ﭏאל ﭐٱ ﭑٱ ﭒٻ ﭓٻ ﭔٻ ﭕٻ ﭖپ ﭗپ ﭘپ ﭙپ ﭚڀ ﭛڀ ﭜڀ ﭝڀ ﭞٺ ﭟٺ ﭠٺ ﭡٺ ",
    "ﭢٿ ﭣٿ ﭤٿ ﭥٿ ﭦٹ ﭧٹ ﭨٹ ﭩٹ ﭪڤ ﭫڤ ﭬڤ ﭭڤ ﭮڦ ﭯڦ ﭰڦ ﭱڦ ﭲڄ ﭳڄ ﭴڄ ﭵڄ ﭶڃ ﭷڃ ﭸڃ ﭹڃ ﭺچ ﭻچ ﭼچ ﭽچ ﭾڇ ﭿڇ ",
    "ﮀڇ ﮁڇ ﮂڍ ﮃڍ ﮄڌ ﮅڌ ﮆڎ ﮇڎ ﮈڈ ﮉڈ ﮊژ ﮋژ ﮌڑ ﮍڑ ﮎک ﮏک ﮐک ﮑک ﮒگ ﮓگ ﮔگ ﮕگ ﮖڳ ﮗڳ ﮘڳ ﮙڳ ﮚڱ ﮛڱ ﮜڱ ﮝڱ ",
    "ﮞں ﮟں ﮠڻ ﮡڻ ﮢڻ ﮣڻ ﮤۀ ﮥۀ ﮦہ ﮧہ ﮨہ ﮩہ ﮪھ ﮫھ ﮬھ ﮭھ ﮮے ﮯے ﮰۓ ﮱۓ ﯓڭ ﯔڭ ﯕڭ ﯖڭ ﯗۇ ﯘۇ ﯙۆ ﯚۆ ﯛۈ ﯜۈ ",
    "ﯝۇٴ ﯞۋ ﯟۋ ﯠۅ ﯡۅ ﯢۉ ﯣۉ ﯤې ﯥې ﯦې ﯧې ﯨى ﯩى ﯪئا ﯫئا ﯬئە ﯭئە ﯮئو ﯯئو ﯰئۇ ﯱئۇ ﯲئۆ ﯳئۆ ﯴئۈ ﯵئۈ ",
    "ﯶئې ﯷئې ﯸئې ﯹئى ﯺئى ﯻئى ﯼی ﯽی ﯾی ﯿی ﰀئج ﰁئح ﰂئم ﰃئى ﰄئي ﰅبج ﰆبح ﰇبخ ﰈبم ﰉبى ﰊبي ﰋتج ﰌتح ",
    "ﰍتخ ﰎتم ﰏتى ﰐتي ﰑثج ﰒثم ﰓثى ﰔثي ﰕجح ﰖجم ﰗحج ﰘحم ﰙخج ﰚخح ﰛخم ﰜسج ﰝسح ﰞسخ ﰟسم ﰠصح ﰡصم ﰢضج "]

/-- The second part of the variants. -/
def variantTableSecond : String := String.join [
    "ﰣضح ﰤضخ ﰥضم ﰦطح ﰧطم ﰨظم ﰩعج ﰪعم ﰫغج ﰬغم ﰭفج ﰮفح ﰯفخ ﰰفم ﰱفى ﰲفي ﰳقح ﰴقم ﰵقى ﰶقي ﰷكا ﰸكج ",
    "ﰹكح ﰺكخ ﰻكل ﰼكم ﰽكى ﰾكي ﰿلج ﱀلح ﱁلخ ﱂلم ﱃلى ﱄلي ﱅمج ﱆمح ﱇمخ ﱈمم ﱉمى ﱊمي ﱋنج ﱌنح ﱍنخ ﱎنم ",
    "ﱏنى ﱐني ﱑهج ﱒهم ﱓهى ﱔهي ﱕيج ﱖيح ﱗيخ ﱘيم ﱙيى ﱚيي ﱛذٰ ﱜرٰ ﱝىٰ ﱤئر ﱥئز ﱦئم ﱧئن ﱨئى ﱩئي ﱪبر ",
    "ﱫبز ﱬبم ﱭبن ﱮبى ﱯبي ﱰتر ﱱتز ﱲتم ﱳتن ﱴتى ﱵتي ﱶثر ﱷثز ﱸثم ﱹثن ﱺثى ﱻثي ﱼفى ﱽفي ﱾقى ﱿقي ﲀكا ",
    "ﲁكل ﲂكم ﲃكى ﲄكي ﲅلم ﲆلى ﲇلي ﲈما ﲉمم ﲊنر ﲋنز ﲌنم ﲍنن ﲎنى ﲏني ﲐىٰ ﲑير ﲒيز ﲓيم ﲔين ﲕيى ﲖيي ",
    "ﲗئج ﲘئح ﲙئخ ﲚئم ﲛئه ﲜبج ﲝبح ﲞبخ ﲟبم ﲠبه ﲡتج ﲢتح ﲣتخ ﲤتم ﲥته ﲦثم ﲧجح ﲨجم ﲩحج ﲪحم ﲫخج ﲬخم ",
    "ﲭسج ﲮسح ﲯسخ ﲰسم ﲱصح ﲲصخ ﲳصم ﲴضج ﲵضح ﲶضخ ﲷضم ﲸطح ﲹظم ﲺعج ﲻعم ﲼغج ﲽغم ﲾفج ﲿفح ﳀفخ ﳁفم ﳂقح ",
    "ﳃقم ﳄكج ﳅكح ﳆكخ ﳇكل ﳈكم ﳉلج ﳊلح ﳋلخ ﳌلم ﳍله ﳎمج ﳏمح ﳐمخ ﳑمم ﳒنج ﳓنح ﳔنخ ﳕنم ﳖنه ﳗهج ﳘهم ",
    "ﳙهٰ ﳚيج ﳛيح ﳜيخ ﳝيم ﳞيه ﳟئم ﳠئه ﳡبم ﳢبه ﳣتم ﳤته ﳥثم ﳦثه ﳧسم ﳨسه ﳩشم ﳪشه ﳫكل ﳬكم ﳭلم ﳮنم ",
    "ﳯنه ﳰيم ﳱيه ﳲـَّ ﳳـُّ ﳴـِّ ﳵطى ﳶطي ﳷعى ﳸعي ﳹغى ﳺغي ﳻسى ﳼسي ﳽشى ﳾشي ﳿحى ﴀحي ﴁجى ﴂجي ﴃخى ",
    "ﴄخي ﴅصى ﴆصي ﴇضى ﴈضي ﴉشج ﴊشح ﴋشخ ﴌشم ﴍشر ﴎسر ﴏصر ﴐضر ﴑطى ﴒطي ﴓعى ﴔعي ﴕغى ﴖغي ﴗسى ﴘسي ﴙشى ",
    "ﴚشي ﴛحى ﴜحي ﴝجى ﴞجي ﴟخى ﴠخي ﴡصى ﴢصي ﴣضى ﴤضي ﴥشج ﴦشح ﴧشخ ﴨشم ﴩشر ﴪسر ﴫصر ﴬضر ﴭشج ﴮشح ﴯشخ ",
    "ﴰشم ﴱسه ﴲشه ﴳطم ﴴسج ﴵسح ﴶسخ ﴷشج ﴸشح ﴹشخ ﴺطم ﴻظم ﴼاً ﴽاً ﵐتجم ﵑتحج ﵒتحج ﵓتحم ﵔتخم ﵕتمج ",
    "ﵖتمح ﵗتمخ ﵘجمح ﵙجمح ﵚحمي ﵛحمى ﵜسحج ﵝسجح ﵞسجى ﵟسمح ﵠسمح ﵡسمج ﵢسمم ﵣسمم ﵤصحح ﵥصحح ﵦصمم ﵧشحم ",
    "ﵨشحم ﵩشجي ﵪشمخ ﵫشمخ ﵬشمم ﵭشمم ﵮضحى ﵯضخم ﵰضخم ﵱطمح ﵲطمح ﵳطمم ﵴطمي ﵵعجم ﵶعمم ﵷعمم ﵸعمى ﵹغمم ",
    "ﵺغمي ﵻغمى ﵼفخم ﵽفخم ﵾقمح ﵿقمم ﶀلحم ﶁلحي ﶂلحى ﶃلجج ﶄلجج ﶅلخم ﶆلخم ﶇلمح ﶈلمح ﶉمحج ﶊمحم ﶋمحي ",
    "ﶌمجح ﶍمجم ﶎمخج ﶏمخم ﶒمجخ ﶓهمج ﶔهمم ﶕنحم ﶖنحى ﶗنجم ﶘنجم ﶙنجى ﶚنمي ﶛنمى ﶜيمم ﶝيمم ﶞبخي ﶟتجي ",
    "ﶠتجى ﶡتخي ﶢتخى ﶣتمي ﶤتمى ﶥجمي ﶦجحى ﶧجمى ﶨسخى ﶩصحي ﶪشحي ﶫضحي ﶬلجي ﶭلمي ﶮيحي ﶯيجي ﶰيمي ﶱممي ",
    "ﶲقمي ﶳنحي ﶴقمح ﶵلحم ﶶعمي ﶷكمي ﶸنجح ﶹمخي ﶺلجم ﶻكمم ﶼلجم ﶽنجح ﶾجحي ﶿحجي ﷀمجي ﷁفمي ﷂبحي ﷃكمم ",
    "ﷄعجم ﷅصمم ﷆسخي ﷇنجي ﷰصلے ﷱقلے ﷲالله ﷳاكبر ﷴمحمد ﷵصلعم ﷶرسول ﷷعليه ﷸوسلم ﷹصلى ︳_ ︴_ ﹍_ ﹎_ ",
    "﹏_ ﹱـً ﹷـَ ﹹـُ ﹻـِ ﹽـّ ﹿـْ ﺀء ﺁآ ﺂآ ﺃأ ﺄأ ﺅؤ ﺆؤ ﺇإ ﺈإ ﺉئ ﺊئ ﺋئ ﺌئ ﺍا ﺎا ﺏب ﺐب ﺑب ﺒب ﺓة ﺔة ",
    "ﺕت ﺖت ﺗت ﺘت ﺙث ﺚث ﺛث ﺜث ﺝج ﺞج ﺟج ﺠج ﺡح ﺢح ﺣح ﺤح ﺥخ ﺦخ ﺧخ ﺨخ ﺩد ﺪد ﺫذ ﺬذ ﺭر ﺮر ﺯز ﺰز ﺱس ﺲس ",
    "ﺳس ﺴس ﺵش ﺶش ﺷش ﺸش ﺹص ﺺص ﺻص ﺼص ﺽض ﺾض ﺿض ﻀض ﻁط ﻂط ﻃط ﻄط ﻅظ ﻆظ ﻇظ ﻈظ ﻉع ﻊع ﻋع ﻌع ﻍغ ﻎغ ﻏغ ﻐغ ",
    "ﻑف ﻒف ﻓف ﻔف ﻕق ﻖق ﻗق ﻘق ﻙك ﻚك ﻛك ﻜك ﻝل ﻞل ﻟل ﻠل ﻡم ﻢم ﻣم ﻤم ﻥن ﻦن ﻧن ﻨن ﻩه ﻪه ﻫه ﻬه ﻭو ﻮو ",
    "ﻯى ﻰى ﻱي ﻲي ﻳي ﻴي ﻵلآ ﻶلآ ﻷلأ ﻸلأ ﻹلإ ﻺلإ ﻻلا ﻼلا ０0 １1 ２2 ３3 ４4 ５5 ６6 ７7 ８8 ９9 ＡA ",
    "ＢB ＣC ＤD ＥE ＦF ＧG ＨH ＩI ＪJ ＫK ＬL ＭM ＮN ＯO ＰP ＱQ ＲR ＳS ＴT ＵU ＶV ＷW ＸX ＹY ",
    "ＺZ ＿_ ａa ｂb ｃc ｄd ｅe ｆf ｇg ｈh ｉi ｊj ｋk ｌl ｍm ｎn ｏo ｐp ｑq ｒr ｓs ｔt ｕu ｖv ",
    "ｗw ｘx ｙy ｚz ｦヲ ｧァ ｨィ ｩゥ ｪェ ｫォ ｬャ ｭュ ｮョ ｯッ ｰー ｱア ｲイ ｳウ ｴエ ｵオ ｶカ ｷキ ｸク ｹケ ",
    "ｺコ ｻサ ｼシ ｽス ｾセ ｿソ ﾀタ ﾁチ ﾂツ ﾃテ ﾄト ﾅナ ﾆニ ﾇヌ ﾈネ ﾉノ ﾊハ ﾋヒ ﾌフ ﾍヘ ﾎホ ﾏマ ﾐミ ﾑム ",
    "ﾒメ ﾓモ ﾔヤ ﾕユ ﾖヨ ﾗラ ﾘリ ﾙル ﾚレ ﾛロ ﾜワ ﾝン ﾞ゙ ﾟ゚ ﾠᅠ ﾡᄀ ﾢᄁ ﾣᆪ ﾤᄂ ﾥᆬ ﾦᆭ ﾧᄃ ﾨᄄ ﾩᄅ ﾪᆰ ﾫᆱ ",
    "ﾬᆲ ﾭᆳ ﾮᆴ ﾯᆵ ﾰᄚ ﾱᄆ ﾲᄇ ﾳᄈ ﾴᄡ ﾵᄉ ﾶᄊ ﾷᄋ ﾸᄌ ﾹᄍ ﾺᄎ ﾻᄏ ﾼᄐ ﾽᄑ ﾾᄒ ￂᅡ ￃᅢ ￄᅣ ￅᅤ ￆᅥ ￇᅦ ￊᅧ ￋᅨ ",
    "ￌᅩ ￍᅪ ￎᅫ ￏᅬ ￒᅭ ￓᅮ ￔᅯ ￕᅰ ￖᅱ ￗᅲ ￚᅳ ￛᅴ ￜᅵ 𐞁ː 𐞂ˑ 𐞃æ 𐞄ʙ 𐞅ɓ 𐞇ʣ 𐞈ꭦ 𐞉ʥ 𐞊ʤ 𐞋ɖ 𐞌ɗ 𐞍ᶑ 𐞎ɘ 𐞏ɞ 𐞐ʩ 𐞑ɤ 𐞒ɢ ",
    "𐞓ɠ 𐞔ʛ 𐞕ħ 𐞖ʜ 𐞗ɧ 𐞘ʄ 𐞙ʪ 𐞚ʫ 𐞛ɬ 𐞜𝼄 𐞝ꞎ 𐞞ɮ 𐞟𝼅 𐞠ʎ 𐞡𝼆 𐞢ø 𐞣ɶ 𐞤ɷ 𐞥q 𐞦ɺ 𐞧𝼈 𐞨ɽ 𐞩ɾ 𐞪ʀ 𐞫ʨ 𐞬ʦ 𐞭ꭧ 𐞮ʧ 𐞯ʈ 𐞰ⱱ ",
    "𐞲ʏ 𐞳ʡ 𐞴ʢ 𐞵ʘ 𐞶ǀ 𐞷ǁ 𐞸ǂ 𐞹𝼊 𐞺𝼞 𝐀A 𝐁B 𝐂C 𝐃D 𝐄E 𝐅F 𝐆G 𝐇H 𝐈I 𝐉J 𝐊K 𝐋L 𝐌M 𝐍N 𝐎O 𝐏P 𝐐Q 𝐑R 𝐒S 𝐓T 𝐔U ",
    "𝐕V 𝐖W 𝐗X 𝐘Y 𝐙Z 𝐚a 𝐛b 𝐜c 𝐝d 𝐞e 𝐟f 𝐠g 𝐡h 𝐢i 𝐣j 𝐤k 𝐥l 𝐦m 𝐧n 𝐨o 𝐩p 𝐪q 𝐫r 𝐬s 𝐭t 𝐮u 𝐯v 𝐰w 𝐱x 𝐲y ",
    "𝐳z 𝐴A 𝐵B 𝐶C 𝐷D 𝐸E 𝐹F 𝐺G 𝐻H 𝐼I 𝐽J 𝐾K 𝐿L 𝑀M 𝑁N 𝑂O 𝑃P 𝑄Q 𝑅R 𝑆S 𝑇T 𝑈U 𝑉V 𝑊W 𝑋X 𝑌Y 𝑍Z 𝑎a 𝑏b 𝑐c ",
    "𝑑d 𝑒e 𝑓f 𝑔g 𝑖i 𝑗j 𝑘k 𝑙l 𝑚m 𝑛n 𝑜o 𝑝p 𝑞q 𝑟r 𝑠s 𝑡t 𝑢u 𝑣v 𝑤w 𝑥x 𝑦y 𝑧z 𝑨A 𝑩B 𝑪C 𝑫D 𝑬E 𝑭F 𝑮G 𝑯H ",
    "𝑰I 𝑱J 𝑲K 𝑳L 𝑴M 𝑵N 𝑶O 𝑷P 𝑸Q 𝑹R 𝑺S 𝑻T 𝑼U 𝑽V 𝑾W 𝑿X 𝒀Y 𝒁Z 𝒂a 𝒃b 𝒄c 𝒅d 𝒆e 𝒇f 𝒈g 𝒉h 𝒊i 𝒋j 𝒌k 𝒍l ",
    "𝒎m 𝒏n 𝒐o 𝒑p 𝒒q 𝒓r 𝒔s 𝒕t 𝒖u 𝒗v 𝒘w 𝒙x 𝒚y 𝒛z 𝒜A 𝒞C 𝒟D 𝒢G 𝒥J 𝒦K 𝒩N 𝒪O 𝒫P 𝒬Q 𝒮S 𝒯T 𝒰U 𝒱V 𝒲W 𝒳X ",
    "𝒴Y 𝒵Z 𝒶a 𝒷b 𝒸c 𝒹d 𝒻f 𝒽h 𝒾i 𝒿j 𝓀k 𝓁l 𝓂m 𝓃n 𝓅p 𝓆q 𝓇r 𝓈s 𝓉t 𝓊u 𝓋v 𝓌w 𝓍x 𝓎y 𝓏z 𝓐A 𝓑B 𝓒C 𝓓D 𝓔E ",
    "𝓕F 𝓖G 𝓗H 𝓘I 𝓙J 𝓚K 𝓛L 𝓜M 𝓝N 𝓞O 𝓟P 𝓠Q 𝓡R 𝓢S 𝓣T 𝓤U 𝓥V 𝓦W 𝓧X 𝓨Y 𝓩Z 𝓪a 𝓫b 𝓬c 𝓭d 𝓮e 𝓯f 𝓰g 𝓱h 𝓲i ",
    "𝓳j 𝓴k 𝓵l 𝓶m 𝓷n 𝓸o 𝓹p 𝓺q 𝓻r 𝓼s 𝓽t 𝓾u 𝓿v 𝔀w 𝔁x 𝔂y 𝔃z 𝔄A 𝔅B 𝔇D 𝔈E 𝔉F 𝔊G 𝔍J 𝔎K 𝔏L 𝔐M 𝔑N 𝔒O 𝔓P ",
    "𝔔Q 𝔖S 𝔗T 𝔘U 𝔙V 𝔚W 𝔛X 𝔜Y 𝔞a 𝔟b 𝔠c 𝔡d 𝔢e 𝔣f 𝔤g 𝔥h 𝔦i 𝔧j 𝔨k 𝔩l 𝔪m 𝔫n 𝔬o 𝔭p 𝔮q 𝔯r 𝔰s 𝔱t 𝔲u 𝔳v ",
    "𝔴w 𝔵x 𝔶y 𝔷z 𝔸A 𝔹B 𝔻D 𝔼E 𝔽F 𝔾G 𝕀I 𝕁J 𝕂K 𝕃L 𝕄M 𝕆O 𝕊S 𝕋T 𝕌U 𝕍V 𝕎W 𝕏X 𝕐Y 𝕒a 𝕓b 𝕔c 𝕕d 𝕖e 𝕗f 𝕘g ",
    "𝕙h 𝕚i 𝕛j 𝕜k 𝕝l 𝕞m 𝕟n 𝕠o 𝕡p 𝕢q 𝕣r 𝕤s 𝕥t 𝕦u 𝕧v 𝕨w 𝕩x 𝕪y 𝕫z 𝕬A 𝕭B 𝕮C 𝕯D 𝕰E 𝕱F 𝕲G 𝕳H 𝕴I 𝕵J 𝕶K ",
    "𝕷L 𝕸M 𝕹N 𝕺O 𝕻P 𝕼Q 𝕽R 𝕾S 𝕿T 𝖀U 𝖁V 𝖂W 𝖃X 𝖄Y 𝖅Z 𝖆a 𝖇b 𝖈c 𝖉d 𝖊e 𝖋f 𝖌g 𝖍h 𝖎i 𝖏j 𝖐k 𝖑l 𝖒m 𝖓n 𝖔o ",
    "𝖕p 𝖖q 𝖗r 𝖘s 𝖙t 𝖚u 𝖛v 𝖜w 𝖝x 𝖞y 𝖟z 𝖠A 𝖡B 𝖢C 𝖣D 𝖤E 𝖥F 𝖦G 𝖧H 𝖨I 𝖩J 𝖪K 𝖫L 𝖬M 𝖭N 𝖮O 𝖯P 𝖰Q 𝖱R 𝖲S ",
    "𝖳T 𝖴U 𝖵V 𝖶W 𝖷X 𝖸Y 𝖹Z 𝖺a 𝖻b 𝖼c 𝖽d 𝖾e 𝖿f 𝗀g 𝗁h 𝗂i 𝗃j 𝗄k 𝗅l 𝗆m 𝗇n 𝗈o 𝗉p 𝗊q 𝗋r 𝗌s 𝗍t 𝗎u 𝗏v 𝗐w ",
    "𝗑x 𝗒y 𝗓z 𝗔A 𝗕B 𝗖C 𝗗D 𝗘E 𝗙F 𝗚G 𝗛H 𝗜I 𝗝J 𝗞K 𝗟L 𝗠M 𝗡N 𝗢O 𝗣P 𝗤Q 𝗥R 𝗦S 𝗧T 𝗨U 𝗩V 𝗪W 𝗫X 𝗬Y 𝗭Z 𝗮a ",
    "𝗯b 𝗰c 𝗱d 𝗲e 𝗳f 𝗴g 𝗵h 𝗶i 𝗷j 𝗸k 𝗹l 𝗺m 𝗻n 𝗼o 𝗽p 𝗾q 𝗿r 𝘀s 𝘁t 𝘂u 𝘃v 𝘄w 𝘅x 𝘆y 𝘇z 𝘈A 𝘉B 𝘊C 𝘋D 𝘌E "]

/-- The third part of the variants. -/
def variantTableThird : String := String.join [
    "𝘍F 𝘎G 𝘏H 𝘐I 𝘑J 𝘒K 𝘓L 𝘔M 𝘕N 𝘖O 𝘗P 𝘘Q 𝘙R 𝘚S 𝘛T 𝘜U 𝘝V 𝘞W 𝘟X 𝘠Y 𝘡Z 𝘢a 𝘣b 𝘤c 𝘥d 𝘦e 𝘧f 𝘨g 𝘩h 𝘪i ",
    "𝘫j 𝘬k 𝘭l 𝘮m 𝘯n 𝘰o 𝘱p 𝘲q 𝘳r 𝘴s 𝘵t 𝘶u 𝘷v 𝘸w 𝘹x 𝘺y 𝘻z 𝘼A 𝘽B 𝘾C 𝘿D 𝙀E 𝙁F 𝙂G 𝙃H 𝙄I 𝙅J 𝙆K 𝙇L 𝙈M ",
    "𝙉N 𝙊O 𝙋P 𝙌Q 𝙍R 𝙎S 𝙏T 𝙐U 𝙑V 𝙒W 𝙓X 𝙔Y 𝙕Z 𝙖a 𝙗b 𝙘c 𝙙d 𝙚e 𝙛f 𝙜g 𝙝h 𝙞i 𝙟j 𝙠k 𝙡l 𝙢m 𝙣n 𝙤o 𝙥p 𝙦q ",
    "𝙧r 𝙨s 𝙩t 𝙪u 𝙫v 𝙬w 𝙭x 𝙮y 𝙯z 𝙰A 𝙱B 𝙲C 𝙳D 𝙴E 𝙵F 𝙶G 𝙷H 𝙸I 𝙹J 𝙺K 𝙻L 𝙼M 𝙽N 𝙾O 𝙿P 𝚀Q 𝚁R 𝚂S 𝚃T 𝚄U ",
    "𝚅V 𝚆W 𝚇X 𝚈Y 𝚉Z 𝚊a 𝚋b 𝚌c 𝚍d 𝚎e 𝚏f 𝚐g 𝚑h 𝚒i 𝚓j 𝚔k 𝚕l 𝚖m 𝚗n 𝚘o 𝚙p 𝚚q 𝚛r 𝚜s 𝚝t 𝚞u 𝚟v 𝚠w 𝚡x 𝚢y ",
    "𝚣z 𝚤ı 𝚥ȷ 𝚨Α 𝚩Β 𝚪Γ 𝚫Δ 𝚬Ε 𝚭Ζ 𝚮Η 𝚯Θ 𝚰Ι 𝚱Κ 𝚲Λ 𝚳Μ 𝚴Ν 𝚵Ξ 𝚶Ο 𝚷Π 𝚸Ρ 𝚹Θ 𝚺Σ 𝚻Τ 𝚼Υ 𝚽Φ 𝚾Χ 𝚿Ψ 𝛀Ω 𝛂α 𝛃β ",
    "𝛄γ 𝛅δ 𝛆ε 𝛇ζ 𝛈η 𝛉θ 𝛊ι 𝛋κ 𝛌λ 𝛍μ 𝛎ν 𝛏ξ 𝛐ο 𝛑π 𝛒ρ 𝛓ς 𝛔σ 𝛕τ 𝛖υ 𝛗φ 𝛘χ 𝛙ψ 𝛚ω 𝛜ε 𝛝θ 𝛞κ 𝛟φ 𝛠ρ 𝛡π 𝛢Α ",
    "𝛣Β 𝛤Γ 𝛥Δ 𝛦Ε 𝛧Ζ 𝛨Η 𝛩Θ 𝛪Ι 𝛫Κ 𝛬Λ 𝛭Μ 𝛮Ν 𝛯Ξ 𝛰Ο 𝛱Π 𝛲Ρ 𝛳Θ 𝛴Σ 𝛵Τ 𝛶Υ 𝛷Φ 𝛸Χ 𝛹Ψ 𝛺Ω 𝛼α 𝛽β 𝛾γ 𝛿δ 𝜀ε 𝜁ζ ",
    "𝜂η 𝜃θ 𝜄ι 𝜅κ 𝜆λ 𝜇μ 𝜈ν 𝜉ξ 𝜊ο 𝜋π 𝜌ρ 𝜍ς 𝜎σ 𝜏τ 𝜐υ 𝜑φ 𝜒χ 𝜓ψ 𝜔ω 𝜖ε 𝜗θ 𝜘κ 𝜙φ 𝜚ρ 𝜛π 𝜜Α 𝜝Β 𝜞Γ 𝜟Δ 𝜠Ε ",
    "𝜡Ζ 𝜢Η 𝜣Θ 𝜤Ι 𝜥Κ 𝜦Λ 𝜧Μ 𝜨Ν 𝜩Ξ 𝜪Ο 𝜫Π 𝜬Ρ 𝜭Θ 𝜮Σ 𝜯Τ 𝜰Υ 𝜱Φ 𝜲Χ 𝜳Ψ 𝜴Ω 𝜶α 𝜷β 𝜸γ 𝜹δ 𝜺ε 𝜻ζ 𝜼η 𝜽θ 𝜾ι 𝜿κ ",
    "𝝀λ 𝝁μ 𝝂ν 𝝃ξ 𝝄ο 𝝅π 𝝆ρ 𝝇ς 𝝈σ 𝝉τ 𝝊υ 𝝋φ 𝝌χ 𝝍ψ 𝝎ω 𝝐ε 𝝑θ 𝝒κ 𝝓φ 𝝔ρ 𝝕π 𝝖Α 𝝗Β 𝝘Γ 𝝙Δ 𝝚Ε 𝝛Ζ 𝝜Η 𝝝Θ 𝝞Ι ",
    "𝝟Κ 𝝠Λ 𝝡Μ 𝝢Ν 𝝣Ξ 𝝤Ο 𝝥Π 𝝦Ρ 𝝧Θ 𝝨Σ 𝝩Τ 𝝪Υ 𝝫Φ 𝝬Χ 𝝭Ψ 𝝮Ω 𝝰α 𝝱β 𝝲γ 𝝳δ 𝝴ε 𝝵ζ 𝝶η 𝝷θ 𝝸ι 𝝹κ 𝝺λ 𝝻μ 𝝼ν 𝝽ξ ",
    "𝝾ο 𝝿π 𝞀ρ 𝞁ς 𝞂σ 𝞃τ 𝞄υ 𝞅φ 𝞆χ 𝞇ψ 𝞈ω 𝞊ε 𝞋θ 𝞌κ 𝞍φ 𝞎ρ 𝞏π 𝞐Α 𝞑Β 𝞒Γ 𝞓Δ 𝞔Ε 𝞕Ζ 𝞖Η 𝞗Θ 𝞘Ι 𝞙Κ 𝞚Λ 𝞛Μ 𝞜Ν ",
    "𝞝Ξ 𝞞Ο 𝞟Π 𝞠Ρ 𝞡Θ 𝞢Σ 𝞣Τ 𝞤Υ 𝞥Φ 𝞦Χ 𝞧Ψ 𝞨Ω 𝞪α 𝞫β 𝞬γ 𝞭δ 𝞮ε 𝞯ζ 𝞰η 𝞱θ 𝞲ι 𝞳κ 𝞴λ 𝞵μ 𝞶ν 𝞷ξ 𝞸ο 𝞹π 𝞺ρ 𝞻ς ",
    "𝞼σ 𝞽τ 𝞾υ 𝞿φ 𝟀χ 𝟁ψ 𝟂ω 𝟄ε 𝟅θ 𝟆κ 𝟇φ 𝟈ρ 𝟉π 𝟊Ϝ 𝟋ϝ 𝟎0 𝟏1 𝟐2 𝟑3 𝟒4 𝟓5 𝟔6 𝟕7 𝟖8 𝟗9 𝟘0 𝟙1 𝟚2 𝟛3 𝟜4 ",
    "𝟝5 𝟞6 𝟟7 𝟠8 𝟡9 𝟢0 𝟣1 𝟤2 𝟥3 𝟦4 𝟧5 𝟨6 𝟩7 𝟪8 𝟫9 𝟬0 𝟭1 𝟮2 𝟯3 𝟰4 𝟱5 𝟲6 𝟳7 𝟴8 𝟵9 𝟶0 𝟷1 𝟸2 𝟹3 𝟺4 ",
    "𝟻5 𝟼6 𝟽7 𝟾8 𝟿9 𞸀ا 𞸁ب 𞸂ج 𞸃د 𞸅و 𞸆ز 𞸇ح 𞸈ط 𞸉ي 𞸊ك 𞸋ل 𞸌م 𞸍ن 𞸎س 𞸏ع 𞸐ف 𞸑ص 𞸒ق 𞸓ر 𞸔ش 𞸕ت 𞸖ث 𞸗خ 𞸘ذ 𞸙ض ",
    "𞸚ظ 𞸛غ 𞸜ٮ 𞸝ں 𞸞ڡ 𞸟ٯ 𞸡ب 𞸢ج 𞸤ه 𞸧ح 𞸩ي 𞸪ك 𞸫ل 𞸬م 𞸭ن 𞸮س 𞸯ع 𞸰ف 𞸱ص 𞸲ق 𞸴ش 𞸵ت 𞸶ث 𞸷خ 𞸹ض 𞸻غ 𞹂ج 𞹇ح 𞹉ي 𞹋ل ",
    "𞹍ن 𞹎س 𞹏ع 𞹑ص 𞹒ق 𞹔ش 𞹗خ 𞹙ض 𞹛غ 𞹝ں 𞹟ٯ 𞹡ب 𞹢ج 𞹤ه 𞹧ح 𞹨ط 𞹩ي 𞹪ك 𞹬م 𞹭ن 𞹮س 𞹯ع 𞹰ف 𞹱ص 𞹲ق 𞹴ش 𞹵ت 𞹶ث 𞹷خ 𞹹ض ",
    "𞹺ظ 𞹻غ 𞹼ٮ 𞹾ڡ 𞺀ا 𞺁ب 𞺂ج 𞺃د 𞺄ه 𞺅و 𞺆ز 𞺇ح 𞺈ط 𞺉ي 𞺋ل 𞺌م 𞺍ن 𞺎س 𞺏ع 𞺐ف 𞺑ص 𞺒ق 𞺓ر 𞺔ش 𞺕ت 𞺖ث 𞺗خ 𞺘ذ 𞺙ض 𞺚ظ ",
    "𞺛غ 𞺡ب 𞺢ج 𞺣د 𞺥و 𞺦ز 𞺧ح 𞺨ط 𞺩ي 𞺫ل 𞺬م 𞺭ن 𞺮س 𞺯ع 𞺰ف 𞺱ص 𞺲ق 𞺳ر 𞺴ش 𞺵ت 𞺶ث 𞺷خ 𞺸ذ 𞺹ض 𞺺ظ 𞺻غ 🯰0 🯱1 🯲2 🯳3 ",
    "🯴4 🯵5 🯶6 🯷7 🯸8 🯹9 丽丽 丸丸 乁乁 𠄢𠄢 你你 侮侮 侻侻 倂倂 偺偺 備備 僧僧 像像 㒞㒞 𠘺𠘺 免免 ",
    "兔兔 兤兤 具具 𠔜𠔜 㒹㒹 內內 再再 𠕋𠕋 冗冗 冤冤 仌仌 冬冬 况况 𩇟𩇟 凵凵 刃刃 㓟㓟 刻刻 剆剆 ",
    "割割 剷剷 㔕㔕 勇勇 勉勉 勤勤 勺勺 包包 匆匆 北北 卉卉 卑卑 博博 即即 卽卽 卿卿 卿卿 卿卿 𠨬𠨬 ",
    "灰灰 及及 叟叟 𠭣𠭣 叫叫 叱叱 吆吆 咞咞 吸吸 呈呈 周周 咢咢 哶哶 唐唐 啓啓 啣啣 善善 善善 喙喙 ",
    "喫喫 喳喳 嗂嗂 圖圖 嘆嘆 圗圗 噑噑 噴噴 切切 壮壮 城城 埴埴 堍堍 型型 堲堲 報報 墬墬 𡓤𡓤 売売 ",
    "壷壷 夆夆 多多 夢夢 奢奢 𡚨𡚨 𡛪𡛪 姬姬 娛娛 娧娧 姘姘 婦婦 㛮㛮 㛼㛼 嬈嬈 嬾嬾 嬾嬾 𡧈𡧈 寃寃 ",
    "寘寘 寧寧 寳寳 𡬘𡬘 寿寿 将将 当当 尢尢 㞁㞁 屠屠 屮屮 峀峀 岍岍 𡷤𡷤 嵃嵃 𡷦𡷦 嵮嵮 嵫嵫 嵼嵼 ",
    "巡巡 巢巢 㠯㠯 巽巽 帨帨 帽帽 幩幩 㡢㡢 𢆃𢆃 㡼㡼 庰庰 庳庳 庶庶 廊廊 𪎒𪎒 廾廾 𢌱𢌱 𢌱𢌱 舁舁 ",
    "弢弢 弢弢 㣇㣇 𣊸𣊸 𦇚𦇚 形形 彫彫 㣣㣣 徚徚 忍忍 志志 忹忹 悁悁 㤺㤺 㤜㤜 悔悔 𢛔𢛔 惇惇 慈慈 ",
    "慌慌 慎慎 慌慌 慺慺 憎憎 憲憲 憤憤 憯憯 懞懞 懲懲 懶懶 成成 戛戛 扝扝 抱抱 拔拔 捐捐 𢬌𢬌 挽挽 ",
    "拼拼 捨捨 掃掃 揤揤 𢯱𢯱 搢搢 揅揅 掩掩 㨮㨮 摩摩 摾摾 撝撝 摷摷 㩬㩬 敏敏 敬敬 𣀊𣀊 旣旣 書書 ",
    "晉晉 㬙㬙 暑暑 㬈㬈 㫤㫤 冒冒 冕冕 最最 暜暜 肭肭 䏙䏙 朗朗 望望 朡朡 杞杞 杓杓 𣏃𣏃 㭉㭉 柺柺 ",
    "枅枅 桒桒 梅梅 𣑭𣑭 梎梎 栟栟 椔椔 㮝㮝 楂楂 榣榣 槪槪 檨檨 𣚣𣚣 櫛櫛 㰘㰘 次次 𣢧𣢧 歔歔 㱎㱎 ",
    "歲歲 殟殟 殺殺 殻殻 𣪍𣪍 𡴋𡴋 𣫺𣫺 汎汎 𣲼𣲼 沿沿 泍泍 汧汧 洖洖 派派 海海 流流 浩浩 浸浸 涅涅 ",
    "𣴞𣴞 洴洴 港港 湮湮 㴳㴳 滋滋 滇滇 𣻑𣻑 淹淹 潮潮 𣽞𣽞 𣾎𣾎 濆濆 瀹瀹 瀞瀞 瀛瀛 㶖㶖 灊灊 災災 ",
    "灷灷 炭炭 𠔥𠔥 煅煅 𤉣𤉣 熜熜 𤎫𤎫 爨爨 爵爵 牐牐 𤘈𤘈 犀犀 犕犕 𤜵𤜵 𤠔𤠔 獺獺 王王 㺬㺬 玥玥 ",
    "㺸㺸 㺸㺸 瑇瑇 瑜瑜 瑱瑱 璅璅 瓊瓊 㼛㼛 甤甤 𤰶𤰶 甾甾 𤲒𤲒 異異 𢆟𢆟 瘐瘐 𤾡𤾡 𤾸𤾸 𥁄𥁄 㿼㿼 ",
    "䀈䀈 直直 𥃳𥃳 𥃲𥃲 𥄙𥄙 𥄳𥄳 眞眞 真真 真真 睊睊 䀹䀹 瞋瞋 䁆䁆 䂖䂖 𥐝𥐝 硎硎 碌碌 磌磌 䃣䃣 ",
    "𥘦𥘦 祖祖 𥚚𥚚 𥛅𥛅 福福 秫秫 䄯䄯 穀穀 穊穊 穏穏 𥥼𥥼 𥪧𥪧 𥪧𥪧 竮竮 䈂䈂 𥮫𥮫 篆篆 築築 䈧䈧 ",
    "𥲀𥲀 糒糒 䊠䊠 糨糨 糣糣 紀紀 𥾆𥾆 絣絣 䌁䌁 緇緇 縂縂 繅繅 䌴䌴 𦈨𦈨 𦉇𦉇 䍙䍙 𦋙𦋙 罺罺 𦌾𦌾 ",
    "羕羕 翺翺 者者 𦓚𦓚 𦔣𦔣 聠聠 𦖨𦖨 聰聰 𣍟𣍟 䏕䏕 育育 脃脃 䐋䐋 脾脾 媵媵 𦞧𦞧 𦞵𦞵 𣎓𣎓 𣎜𣎜 ",
    "舁舁 舄舄 辞辞 䑫䑫 芑芑 芋芋 芝芝 劳劳 花花 芳芳 芽芽 苦苦 𦬼𦬼 若若 茝茝 荣荣 莭莭 茣茣 莽莽 ",
    "菧菧 著著 荓荓 菊菊 菌菌 菜菜 𦰶𦰶 𦵫𦵫 𦳕𦳕 䔫䔫 蓱蓱 蓳蓳 蔖蔖 𧏊𧏊 蕤蕤 𦼬𦼬 䕝䕝 䕡䕡 𦾱𦾱 ",
    "𧃒𧃒 䕫䕫 虐虐 虜虜 虧虧 虩虩 蚩蚩 蚈蚈 蜎蜎 蛢蛢 蝹蝹 蜨蜨 蝫蝫 螆螆 䗗䗗 蟡蟡 蠁蠁 䗹䗹 衠衠 ",
    "衣衣 𧙧𧙧 裗裗 裞裞 䘵䘵 裺裺 㒻㒻 𧢮𧢮 𧥦𧥦 䚾䚾 䛇䛇 誠誠 諭諭 變變 豕豕 𧲨𧲨 貫貫 賁賁 贛贛 ",
    "起起 𧼯𧼯 𠠄𠠄 跋跋 趼趼 跰跰 𠣞𠣞 軔軔 輸輸 𨗒𨗒 𨗭𨗭 邔邔 郱郱 鄑鄑 𨜮𨜮 鄛鄛 鈸鈸 鋗鋗 鋘鋘 ",
    "鉼鉼 鏹鏹 鐕鐕 𨯺𨯺 開開 䦕䦕 閷閷 𨵷𨵷 䧦䧦 雃雃 嶲嶲 霣霣 𩅅𩅅 𩈚𩈚 䩮䩮 䩶䩶 韠韠 𩐊𩐊 䪲䪲 ",
    "𩒖𩒖 頋頋 頋頋 頩頩 𩖶𩖶 飢飢 䬳䬳 餩餩 馧馧 駂駂 駾駾 䯎䯎 𩬰𩬰 鬒鬒 鱀鱀 鳽鳽 䳎䳎 䳭䳭 鵧鵧 ",
    "𪃎𪃎 䳸䳸 𪄅𪄅 𪈎𪈎 𪊑𪊑 麻麻 䵖䵖 黹黹 黾黾 鼅鼅 鼏鼏 鼖鼖 鼻鼻 𪘀𪘀 "]

/-- The class of a mark; zero for any other character. -/
def markClass (c : Char) : Nat :=
  ((markClassRows.find? fun r => r.1 ≤ c.toNat && c.toNat ≤ r.2.1).map (·.2.2)).getD 0

/-! ## Syllable blocks

The blocks of the Korean script are not listed: they are numbered by their
leading consonant, their vowel and their trailing consonant, if there is one. -/

/-- The first leading consonant. -/
def firstLead : Nat := 0x1100

/-- The first vowel. -/
def firstVowel : Nat := 0x1161

/-- The code point before the first trailing consonant. -/
def beforeTrails : Nat := 0x11a7

/-- The first syllable block. -/
def firstBlock : Nat := 0xac00

/-- The number of leading consonants. -/
def leadCount : Nat := 19

/-- The number of vowels. -/
def vowelCount : Nat := 21

/-- The number of trailing consonants, counting that there is none. -/
def trailCount : Nat := 28

/-- The number of syllable blocks. -/
def blockCount : Nat := leadCount * vowelCount * trailCount

/-- The consonants and the vowel of a syllable block. -/
def blockParts? (c : Char) : Option (List Char) :=
  if firstBlock ≤ c.toNat && c.toNat < firstBlock + blockCount then
    let n := c.toNat - firstBlock
    let lead := Char.ofNat (firstLead + n / trailCount / vowelCount)
    let vowel := Char.ofNat (firstVowel + n / trailCount % vowelCount)
    let trail := n % trailCount
    some ([lead, vowel] ++ if trail = 0 then [] else [Char.ofNat (beforeTrails + trail)])
  else none

/-- The syllable block that begins with a character and goes on with another. -/
def block? (first second : Char) : Option Char :=
  let a := first.toNat
  let b := second.toNat
  if firstLead ≤ a && a < firstLead + leadCount && firstVowel ≤ b
      && b < firstVowel + vowelCount then
    some (Char.ofNat
      (firstBlock + ((a - firstLead) * vowelCount + (b - firstVowel)) * trailCount))
  else if firstBlock ≤ a && a < firstBlock + blockCount && (a - firstBlock) % trailCount = 0
      && beforeTrails < b && b < beforeTrails + trailCount then
    some (Char.ofNat (a + (b - beforeTrails)))
  else none

/-! ## Taking apart -/

/-- The letter and the mark a character stands for, looked up in the table. -/
def letterAndMark? (c : Char) : List Char → Option (Char × Char)
  | letter :: mark :: both :: rest =>
    if both = c then some (letter, mark) else letterAndMark? c rest
  | _ => none

/-- How many marks one character can hold, and more. -/
def markDepth : Nat := 8

/-- Takes the marks off a character, the last one first. -/
def unmarked : Nat → Char → List Char
  | 0, c => [c]
  | depth + 1, c =>
    match letterAndMark? c compositionTable.toList with
    | some (letter, mark) => unmarked depth letter ++ [mark]
    | none => (blockParts? c).getD [c]

/-- The characters a character is a variant of, looked up in a table. -/
def variant? (c : Char) (table : String) : Option (List Char) :=
  ((wordsBy (· == ' ') table.toList).find? fun entry => entry.head? = some c).map (·.drop 1)

/-- The characters a character is a variant of; most are only one of themselves. -/
def plain (c : Char) : List Char :=
  ((variant? c variantTableFirst <|> variant? c variantTableSecond)
    <|> variant? c variantTableThird).getD [c]

/-- The characters a character is made of. -/
def apart (c : Char) : List Char :=
  (plain c).flatMap (unmarked markDepth)

/-! ## Putting together -/

/-- Puts a character in its place among marks sorted by their class, after those
    of its own class. The marks are in reverse order. -/
def insertMark (c : Char) : List Char → List Char
  | [] => [c]
  | d :: ds =>
    if markClass c ≠ 0 && markClass c < markClass d then d :: insertMark c ds else c :: d :: ds

/-- Sorts marks that follow one another by their class. -/
def sortMarks (cs : List Char) : List Char :=
  (cs.foldl (fun sorted c => insertMark c sorted) []).reverse

/-- The character for a letter and a mark, looked up in the table. -/
def both? (letter mark : Char) : List Char → Option Char
  | l :: m :: both :: rest =>
    if l = letter && m = mark then some both else both? letter mark rest
  | _ => none

/-- The character for a character and the one after it. -/
def composed? (first second : Char) : Option Char :=
  both? first second compositionTable.toList <|> block? first second

/-- Puts characters together with the base before them. `kept` are the marks, in
    reverse, that stay behind the base: what follows them can only be put
    together with the base if it is a mark of a higher class. -/
def togetherWith (base : Char) (kept : List Char) : List Char → List Char
  | [] => base :: kept.reverse
  | c :: cs =>
    let free := kept.head?.all fun d => markClass d < markClass c
    match if free then composed? base c else none with
    | some both => togetherWith both kept cs
    | none =>
      if markClass c = 0 then (base :: kept.reverse) ++ togetherWith c [] cs
      else togetherWith base (c :: kept) cs

/-- Puts marks together with the letters before them. -/
def together : List Char → List Char
  | [] => []
  | c :: cs => togetherWith c [] cs

/-- The normal form of a name. -/
def normalForm (name : String) : String :=
  if name.toList.all fun c => c.toNat < 0x80 then name
  else String.ofList (together (sortMarks (name.toList.flatMap apart)))

end StateMachine.Text
