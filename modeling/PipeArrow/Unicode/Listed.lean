import PipeArrow.Unicode.Table

namespace PipeArrow.Unicode.Listed

def asciiHexDigit : CodeSet := .ofLines ["30 3A 41 47 61 67"]

def bidiControl : CodeSet := .ofLines ["61C 61D 200E 2010 202A 202F 2066 206A"]

def bidiMirrored : CodeSet := .ofLines [
  "28 2A 3C 3D 3E 3F 5B 5C 5D 5E 7B 7C 7D 7E AB AC BB BC F3A F3E 169B 169D 2039 203B 2045 2047",
  "207D 207F 208D 208F 2140 2141 2201 2205 2208 220E 2211 2212 2215 2217 221A 221E 221F 2223",
  "2224 2225 2226 2227 222B 2234 2239 223A 223B 224D 2252 2256 225F 2261 2262 2263 2264 226C",
  "226D 228D 228F 2293 2298 2299 22A2 22A4 22A6 22B9 22BE 22C0 22C9 22CE 22D0 22D2 22D6 22EE",
  "22F0 2300 2308 230C 2320 2322 2329 232B 2768 2776 27C0 27C1 27C3 27C7 27C8 27CA 27CB 27CE",
  "27D3 27D7 27DC 27DF 27E2 27F0 2983 2999 299B 29A1 29A2 29B0 29B8 29B9 29C0 29C6 29C9 29CA",
  "29CE 29D3 29D4 29D6 29D8 29DD 29E1 29E2 29E3 29E6 29E8 29EA 29F4 29FA 29FC 29FE 2A0A 2A1D",
  "2A1E 2A22 2A24 2A25 2A26 2A27 2A29 2A2A 2A2B 2A2F 2A34 2A36 2A3C 2A3F 2A57 2A59 2A64 2A66",
  "2A6A 2A6E 2A6F 2A71 2A73 2A75 2A79 2AA4 2AA6 2AAE 2AAF 2AD7 2ADC 2ADD 2ADE 2ADF 2AE2 2AE7",
  "2AEC 2AEF 2AF3 2AF4 2AF7 2AFC 2AFD 2AFE 2BFE 2BFF 2E02 2E06 2E09 2E0B 2E0C 2E0E 2E1C 2E1E",
  "2E20 2E2A 2E55 2E5D 3008 3012 3014 301C FE59 FE5F FE64 FE66 FF08 FF0A FF1C FF1D FF1E FF1F",
  "FF3B FF3C FF3D FF3E FF5B FF5C FF5D FF5E FF5F FF61 FF62 FF64 1D6DB 1D6DC 1D715 1D716 1D74F",
  "1D750 1D789 1D78A 1D7C3 1D7C4"]

def changesWhenCasemapped : CodeSet := .ofLines [
  "41 5B 61 7B B5 B6 C0 D7 D8 F7 F8 138 139 18D 18E 1AA 1AC 1BA 1BC 1BE 1BF 1C0 1C4 221 222 234",
  "23A 255 256 258 259 25A 25B 25D 260 262 263 267 268 26D 26F 270 271 273 275 276 27D 27E 280",
  "281 282 284 287 28D 292 293 29D 29F 345 346 370 374 376 378 37B 37E 37F 380 386 387 388 38B",
  "38C 38D 38E 3A2 3A3 3D2 3D5 3F6 3F7 3FC 3FD 482 48A 530 531 557 561 588 10A0 10C6 10C7 10C8",
  "10CD 10CE 10D0 10FB 10FD 1100 13A0 13F6 13F8 13FE 1C80 1C8B 1C90 1CBB 1CBD 1CC0 1D79 1D7A",
  "1D7D 1D7E 1D8E 1D8F 1E00 1E9C 1E9E 1E9F 1EA0 1F16 1F18 1F1E 1F20 1F46 1F48 1F4E 1F50 1F58",
  "1F59 1F5A 1F5B 1F5C 1F5D 1F5E 1F5F 1F7E 1F80 1FB5 1FB6 1FBD 1FBE 1FBF 1FC2 1FC5 1FC6 1FCD",
  "1FD0 1FD4 1FD6 1FDC 1FE0 1FED 1FF2 1FF5 1FF6 1FFD 2126 2127 212A 212C 2132 2133 214E 214F",
  "2160 2180 2183 2185 24B6 24EA 2C00 2C71 2C72 2C74 2C75 2C77 2C7E 2CE4 2CEB 2CEF 2CF2 2CF4",
  "2D00 2D26 2D27 2D28 2D2D 2D2E A640 A66E A680 A69C A722 A730 A732 A770 A779 A788 A78B A78E",
  "A790 A795 A796 A7AF A7B0 A7CE A7D0 A7D2 A7D6 A7DD A7F5 A7F7 AB53 AB54 AB70 ABC0 FB00 FB07",
  "FB13 FB18 FF21 FF3B FF41 FF5B 10400 10450 104B0 104D4 104D8 104FC 10570 1057B 1057C 1058B",
  "1058C 10593 10594 10596 10597 105A2 105A3 105B2 105B3 105BA 105BB 105BD 10C80 10CB3 10CC0",
  "10CF3 10D50 10D66 10D70 10D86 118A0 118E0 16E40 16E80 1E900 1E944"]

/-- Identifier characters whose compatibility forms hold others. -/
def compatibilityContinue : CodeSet := .ofLines [
  "37A 37B 309B 309D FC5E FC64 FDFA FDFC FE70 FE71 FE72 FE73 FE74 FE75 FE76 FE77 FE78 FE79 FE7A",
  "FE7B FE7C FE7D FE7E FE7F"]

/-- Identifier starts whose compatibility forms start no identifier. -/
def compatibilityStart : CodeSet := .ofLines [
  "37A 37B E33 E34 EB3 EB4 309B 309D FC5E FC64 FDFA FDFC FE70 FE71 FE72 FE73 FE74 FE75 FE76",
  "FE77 FE78 FE79 FE7A FE7B FE7C FE7D FE7E FE7F FF9E FFA0"]

/-- Letters of scripts that put no spaces between words. -/
def complexContext : CodeSet := .ofLines [
  "E01 E31 E32 E34 E40 E47 E81 E83 E84 E85 E86 E8B E8C EA4 EA5 EA6 EA7 EB1 EB2 EB4 EBD EBE EC0",
  "EC5 EC6 EC7 EDC EE0 1000 102B 103F 1040 1050 1056 105A 105E 1061 1062 1065 1067 106E 1071",
  "1075 1082 108E 108F 1780 17B4 17D7 17D8 17DC 17DD 1950 196E 1970 1975 1980 19AC 19B0 19CA",
  "1A20 1A55 1AA7 1AA8 A9E0 A9E5 A9E6 A9F0 A9FA A9FF AA60 AA77 AA7A AA7B AA7E AAB0 AAB1 AAB2",
  "AAB5 AAB7 AAB9 AABE AAC0 AAC1 AAC2 AAC3 AADB AADE 11700 1171B 11740 11747"]

def dash : CodeSet := .ofLines [
  "2D 2E 58A 58B 5BE 5BF 1400 1401 1806 1807 2010 2016 2053 2054 207B 207C 208B 208C 2212 2213",
  "2E17 2E18 2E1A 2E1B 2E3A 2E3C 2E40 2E41 2E5D 2E5E 301C 301D 3030 3031 30A0 30A1 FE31 FE33",
  "FE58 FE59 FE63 FE64 FF0D FF0E 10D6E 10D6F 10EAD 10EAE"]

def deprecated : CodeSet := .ofLines [
  "149 14A 673 674 F77 F78 F79 F7A 17A3 17A5 206A 2070 2329 232B E0001 E0002"]

def diacritic : CodeSet := .ofLines [
  "5E 5F 60 61 A8 A9 AF B0 B4 B5 B7 B9 2B0 34F 350 358 35D 363 374 376 37A 37B 384 386 483 488",
  "559 55A 591 5BE 5BF 5C0 5C1 5C3 5C4 5C6 5C7 5C8 64B 653 657 659 6DF 6E1 6E5 6E7 6EA 6ED 730",
  "74B 7A6 7B1 7EB 7F6 818 81A 898 8A0 8C9 8D3 8E3 8FF 93C 93D 94D 94E 951 955 971 972 9BC 9BD",
  "9CD 9CE A3C A3D A4D A4E ABC ABD ACD ACE AFD B00 B3C B3D B4D B4E B55 B56 BCD BCE C3C C3D C4D",
  "C4E CBC CBD CCD CCE D3B D3D D4D D4E DCA DCB E3A E3B E47 E4D E4E E4F EBA EBB EC8 ECD F18 F1A",
  "F35 F36 F37 F38 F39 F3A F3E F40 F82 F85 F86 F88 FC6 FC7 1037 1038 1039 103B 1063 1065 1069",
  "106E 1087 108E 108F 1090 109A 109C 135D 1360 1714 1716 1734 1735 17C9 17D4 17DD 17DE 1939",
  "193C 1A60 1A61 1A75 1A7D 1A7F 1A80 1AB0 1ABF 1AC1 1ACC 1B34 1B35 1B44 1B45 1B6B 1B74 1BAA",
  "1BAC 1BE6 1BE7 1BF2 1BF4 1C36 1C38 1C78 1C7E 1CD0 1CE9 1CED 1CEE 1CF4 1CF5 1CF7 1CFA 1D2C",
  "1D6B 1D9B 1DBF 1DC4 1DD0 1DF5 1E00 1FBD 1FBE 1FBF 1FC2 1FCD 1FD0 1FDD 1FE0 1FED 1FF0 1FFD",
  "1FFF 2CEF 2CF2 2E2F 2E30 302A 3030 3099 309D 30FC 30FD A66F A670 A67C A67E A67F A680 A69C",
  "A69E A6F0 A6F2 A700 A722 A788 A78B A7F8 A7FA A806 A807 A82C A82D A8C4 A8C5 A8E0 A8F2 A92B",
  "A92F A953 A954 A9B3 A9B4 A9C0 A9C1 A9E5 A9E6 AA7B AA7E AABF AAC3 AAF6 AAF7 AB5B AB60 AB69",
  "AB6C ABEC ABEE FB1E FB1F FE20 FE30 FF3E FF3F FF40 FF41 FF70 FF71 FF9E FFA0 FFE3 FFE4 102E0",
  "102E1 10780 10786 10787 107B1 107B2 107BB 10A38 10A3B 10A3F 10A40 10AE5 10AE7 10D22 10D28",
  "10D4E 10D4F 10D69 10D6E 10EFD 10F00 10F46 10F51 10F82 10F86 11046 11047 11070 11071 110B9",
  "110BB 11133 11135 11173 11174 111C0 111C1 111CA 111CD 11235 11237 112E9 112EB 1133B 1133D",
  "1134D 1134E 11366 1136D 11370 11375 113CE 113D1 113D2 113D4 113E1 113E3 11442 11443 11446",
  "11447 114C2 114C4 115BF 115C1 1163F 11640 116B6 116B8 1172B 1172C 11839 1183B 1193D 1193F",
  "11943 11944 119E0 119E1 11A34 11A35 11A47 11A48 11A99 11A9A 11C3F 11C40 11D42 11D43 11D44",
  "11D46 11D97 11D98 11F41 11F43 11F5A 11F5B 13447 13456 1612F 16130 16AF0 16AF5 16B30 16B37",
  "16D6B 16D6D 16F8F 16FA0 16FF0 16FF2 1AFF0 1AFF4 1AFF5 1AFFC 1AFFD 1AFFF 1CF00 1CF2E 1CF30",
  "1CF47 1D167 1D16A 1D16D 1D173 1D17B 1D183 1D185 1D18C 1D1AA 1D1AE 1E030 1E06E 1E130 1E137",
  "1E2AE 1E2AF 1E2EC 1E2F0 1E5EE 1E5F0 1E8D0 1E8D7 1E944 1E947 1E948 1E94B"]

def emoji : CodeSet := .ofLines [
  "23 24 2A 2B 30 3A A9 AA AE AF 203C 203D 2049 204A 2122 2123 2139 213A 2194 219A 21A9 21AB",
  "231A 231C 2328 2329 23CF 23D0 23E9 23F4 23F8 23FB 24C2 24C3 25AA 25AC 25B6 25B7 25C0 25C1",
  "25FB 25FF 2600 2605 260E 260F 2611 2612 2614 2616 2618 2619 261D 261E 2620 2621 2622 2624",
  "2626 2627 262A 262B 262E 2630 2638 263B 2640 2641 2642 2643 2648 2654 265F 2661 2663 2664",
  "2665 2667 2668 2669 267B 267C 267E 2680 2692 2698 2699 269A 269B 269D 26A0 26A2 26A7 26A8",
  "26AA 26AC 26B0 26B2 26BD 26BF 26C4 26C6 26C8 26C9 26CE 26D0 26D1 26D2 26D3 26D5 26E9 26EB",
  "26F0 26F6 26F7 26FB 26FD 26FE 2702 2703 2705 2706 2708 270E 270F 2710 2712 2713 2714 2715",
  "2716 2717 271D 271E 2721 2722 2728 2729 2733 2735 2744 2745 2747 2748 274C 274D 274E 274F",
  "2753 2756 2757 2758 2763 2765 2795 2798 27A1 27A2 27B0 27B1 27BF 27C0 2934 2936 2B05 2B08",
  "2B1B 2B1D 2B50 2B51 2B55 2B56 3030 3031 303D 303E 3297 3298 3299 329A 1F004 1F005 1F0CF",
  "1F0D0 1F170 1F172 1F17E 1F180 1F18E 1F18F 1F191 1F19B 1F1E6 1F200 1F201 1F203 1F21A 1F21B",
  "1F22F 1F230 1F232 1F23B 1F250 1F252 1F300 1F322 1F324 1F394 1F396 1F398 1F399 1F39C 1F39E",
  "1F3F1 1F3F3 1F3F6 1F3F7 1F4FE 1F4FF 1F53E 1F549 1F54F 1F550 1F568 1F56F 1F571 1F573 1F57B",
  "1F587 1F588 1F58A 1F58E 1F590 1F591 1F595 1F597 1F5A4 1F5A6 1F5A8 1F5A9 1F5B1 1F5B3 1F5BC",
  "1F5BD 1F5C2 1F5C5 1F5D1 1F5D4 1F5DC 1F5DF 1F5E1 1F5E2 1F5E3 1F5E4 1F5E8 1F5E9 1F5EF 1F5F0",
  "1F5F3 1F5F4 1F5FA 1F650 1F680 1F6C6 1F6CB 1F6D3 1F6D5 1F6D8 1F6DC 1F6E6 1F6E9 1F6EA 1F6EB",
  "1F6ED 1F6F0 1F6F1 1F6F3 1F6FD 1F7E0 1F7EC 1F7F0 1F7F1 1F90C 1F93B 1F93C 1F946 1F947 1FA00",
  "1FA70 1FA7D 1FA80 1FA8A 1FA8F 1FAC7 1FACE 1FADD 1FADF 1FAEA 1FAF0 1FAF9"]

def emojiComponent : CodeSet := .ofLines [
  "23 24 2A 2B 30 3A 200D 200E 20E3 20E4 FE0F FE10 1F1E6 1F200 1F3FB 1F400 1F9B0 1F9B4 E0020",
  "E0080"]

def emojiModifier : CodeSet := .ofLines ["1F3FB 1F400"]

def emojiModifierBase : CodeSet := .ofLines [
  "261D 261E 26F9 26FA 270A 270E 1F385 1F386 1F3C2 1F3C5 1F3C7 1F3C8 1F3CA 1F3CD 1F442 1F444",
  "1F446 1F451 1F466 1F479 1F47C 1F47D 1F481 1F484 1F485 1F488 1F48F 1F490 1F491 1F492 1F4AA",
  "1F4AB 1F574 1F576 1F57A 1F57B 1F590 1F591 1F595 1F597 1F645 1F648 1F64B 1F650 1F6A3 1F6A4",
  "1F6B4 1F6B7 1F6C0 1F6C1 1F6CC 1F6CD 1F90C 1F90D 1F90F 1F910 1F918 1F920 1F926 1F927 1F930",
  "1F93A 1F93C 1F93F 1F977 1F978 1F9B5 1F9B7 1F9B8 1F9BA 1F9BB 1F9BC 1F9CD 1F9D0 1F9D1 1F9DE",
  "1FAC3 1FAC6 1FAF0 1FAF9"]

def emojiPresentation : CodeSet := .ofLines [
  "231A 231C 23E9 23ED 23F0 23F1 23F3 23F4 25FD 25FF 2614 2616 2648 2654 267F 2680 2693 2694",
  "26A1 26A2 26AA 26AC 26BD 26BF 26C4 26C6 26CE 26CF 26D4 26D5 26EA 26EB 26F2 26F4 26F5 26F6",
  "26FA 26FB 26FD 26FE 2705 2706 270A 270C 2728 2729 274C 274D 274E 274F 2753 2756 2757 2758",
  "2795 2798 27B0 27B1 27BF 27C0 2B1B 2B1D 2B50 2B51 2B55 2B56 1F004 1F005 1F0CF 1F0D0 1F18E",
  "1F18F 1F191 1F19B 1F1E6 1F200 1F201 1F202 1F21A 1F21B 1F22F 1F230 1F232 1F237 1F238 1F23B",
  "1F250 1F252 1F300 1F321 1F32D 1F336 1F337 1F37D 1F37E 1F394 1F3A0 1F3CB 1F3CF 1F3D4 1F3E0",
  "1F3F1 1F3F4 1F3F5 1F3F8 1F43F 1F440 1F441 1F442 1F4FD 1F4FF 1F53E 1F54B 1F54F 1F550 1F568",
  "1F57A 1F57B 1F595 1F597 1F5A4 1F5A5 1F5FB 1F650 1F680 1F6C6 1F6CC 1F6CD 1F6D0 1F6D3 1F6D5",
  "1F6D8 1F6DC 1F6E0 1F6EB 1F6ED 1F6F4 1F6FD 1F7E0 1F7EC 1F7F0 1F7F1 1F90C 1F93B 1F93C 1F946",
  "1F947 1FA00 1FA70 1FA7D 1FA80 1FA8A 1FA8F 1FAC7 1FACE 1FADD 1FADF 1FAEA 1FAF0 1FAF9"]

def extendedPictographic : CodeSet := .ofLines [
  "A9 AA AE AF 203C 203D 2049 204A 2122 2123 2139 213A 2194 219A 21A9 21AB 231A 231C 2328 2329",
  "2388 2389 23CF 23D0 23E9 23F4 23F8 23FB 24C2 24C3 25AA 25AC 25B6 25B7 25C0 25C1 25FB 25FF",
  "2600 2606 2607 2613 2614 2686 2690 2706 2708 2713 2714 2715 2716 2717 271D 271E 2721 2722",
  "2728 2729 2733 2735 2744 2745 2747 2748 274C 274D 274E 274F 2753 2756 2757 2758 2763 2768",
  "2795 2798 27A1 27A2 27B0 27B1 27BF 27C0 2934 2936 2B05 2B08 2B1B 2B1D 2B50 2B51 2B55 2B56",
  "3030 3031 303D 303E 3297 3298 3299 329A 1F000 1F100 1F10D 1F110 1F12F 1F130 1F16C 1F172",
  "1F17E 1F180 1F18E 1F18F 1F191 1F19B 1F1AD 1F1E6 1F201 1F210 1F21A 1F21B 1F22F 1F230 1F232",
  "1F23B 1F23C 1F240 1F249 1F3FB 1F400 1F53E 1F546 1F650 1F680 1F700 1F774 1F780 1F7D5 1F800",
  "1F80C 1F810 1F848 1F850 1F85A 1F860 1F888 1F890 1F8AE 1F900 1F90C 1F93B 1F93C 1F946 1F947",
  "1FB00 1FC00 1FFFE"]

def extender : CodeSet := .ofLines [
  "B7 B8 2D0 2D2 640 641 7FA 7FB A71 A72 AFB AFC B55 B56 E46 E47 EC6 EC7 180A 180B 1843 1844",
  "1AA7 1AA8 1C36 1C37 1C7B 1C7C 3005 3006 3031 3036 309D 309F 30FC 30FF A015 A016 A60C A60D",
  "A9CF A9D0 A9E6 A9E7 AA70 AA71 AADD AADE AAF3 AAF5 FF70 FF71 10781 10783 10D4E 10D4F 10D6A",
  "10D6B 10D6F 10D70 11237 11238 1135D 1135E 113D2 113D4 115C6 115C9 11A98 11A99 16B42 16B44",
  "16FE0 16FE2 16FE3 16FE4 1E13C 1E13E 1E5EF 1E5F0 1E944 1E947"]

/-- Characters that change to lower case or when folded, but not both. -/
def foldedVariants : CodeSet := .ofLines [
  "B5 B6 DF E0 149 14A 17F 180 345 346 3C2 3C3 3D0 3D2 3D5 3D7 3F0 3F2 3F5 3F6 587 588 13A0",
  "13F6 13F8 13FE 1C80 1C89 1E9A 1E9C 1F80 1F88 1F90 1F98 1FA0 1FA8 1FB2 1FB5 1FB7 1FB8 1FC2",
  "1FC5 1FC7 1FC8 1FF2 1FF5 1FF7 1FF8 AB70 ABC0 FB00 FB07 FB13 FB18"]

def graphemeLink : CodeSet := .ofLines [
  "94D 94E 9CD 9CE A4D A4E ACD ACE B4D B4E BCD BCE C4D C4E CCD CCE D3B D3D D4D D4E DCA DCB E3A",
  "E3B EBA EBB F84 F85 1039 103B 1714 1716 1734 1735 17D2 17D3 1A60 1A61 1B44 1B45 1BAA 1BAC",
  "1BF2 1BF4 2D7F 2D80 A806 A807 A82C A82D A8C4 A8C5 A953 A954 A9C0 A9C1 AAF6 AAF7 ABED ABEE",
  "10A3F 10A40 11046 11047 11070 11071 1107F 11080 110B9 110BA 11133 11135 111C0 111C1 11235",
  "11236 112EA 112EB 1134D 1134E 113CE 113D1 11442 11443 114C2 114C3 115BF 115C0 1163F 11640",
  "116B6 116B7 1172B 1172C 11839 1183A 1193D 1193F 119E0 119E1 11A34 11A35 11A47 11A48 11A99",
  "11A9A 11C3F 11C40 11D44 11D46 11D97 11D98 11F41 11F43 1612F 16130"]

def hexDigit : CodeSet := .ofLines ["30 3A 41 47 61 67 FF10 FF1A FF21 FF27 FF41 FF47"]

def hyphen : CodeSet := .ofLines [
  "2D 2E AD AE 58A 58B 1806 1807 2010 2012 2E17 2E18 30FB 30FC FE63 FE64 FF0D FF0E FF65 FF66"]

def idCompatMathContinue : CodeSet := .ofLines [
  "B2 B4 B9 BA 2070 2071 2074 207F 2080 208F 2202 2203 2207 2208 221E 221F 1D6C1 1D6C2 1D6DB",
  "1D6DC 1D6FB 1D6FC 1D715 1D716 1D735 1D736 1D74F 1D750 1D76F 1D770 1D789 1D78A 1D7A9 1D7AA",
  "1D7C3 1D7C4"]

def idCompatMathStart : CodeSet := .ofLines [
  "2202 2203 2207 2208 221E 221F 1D6C1 1D6C2 1D6DB 1D6DC 1D6FB 1D6FC 1D715 1D716 1D735 1D736",
  "1D74F 1D750 1D76F 1D770 1D789 1D78A 1D7A9 1D7AA 1D7C3 1D7C4"]

def ideographic : CodeSet := .ofLines [
  "3006 3008 3021 302A 3038 303B 3400 4DC0 4E00 A000 F900 FA6E FA70 FADA 16FE4 16FE5 17000",
  "187F8 18800 18CD6 18CFF 18D09 1B170 1B2FC 20000 2A6E0 2A700 2B73A 2B740 2B81E 2B820 2CEA2",
  "2CEB0 2EBE1 2EBF0 2EE5E 2F800 2FA1E 30000 3134B 31350 323B0"]

def idsBinaryOperator : CodeSet := .ofLines ["2FF0 2FF2 2FF4 2FFE 31EF 31F0"]

def idsTrinaryOperator : CodeSet := .ofLines ["2FF2 2FF4"]

def idsUnaryOperator : CodeSet := .ofLines ["2FFE 3000"]

def joinControl : CodeSet := .ofLines ["200C 200E"]

def logicalOrderException : CodeSet := .ofLines [
  "E40 E45 EC0 EC5 19B5 19B8 19BA 19BB AAB5 AAB7 AAB9 AABA AABB AABD"]

/-- Marks that stand inside words. -/
def midWord : CodeSet := .ofLines [
  "27 28 2E 2F 3A 3B B7 B8 387 388 55F 560 5F4 5F5 2018 201A 2024 2025 2027 2028 FE13 FE14 FE52",
  "FE53 FE55 FE56 FF07 FF08 FF0E FF0F FF1A FF1B"]

def modifierCombiningMark : CodeSet := .ofLines [
  "654 656 658 659 6DC 6DD 6E3 6E4 6E7 6E9 8CA 8CC 8CD 8D0 8D3 8D4 8F3 8F4"]

def noncharacterCodePoint : CodeSet := .ofLines [
  "FDD0 FDF0 FFFE 10000 1FFFE 20000 2FFFE 30000 3FFFE 40000 4FFFE 50000 5FFFE 60000 6FFFE 70000",
  "7FFFE 80000 8FFFE 90000 9FFFE A0000 AFFFE B0000 BFFFE C0000 CFFFE D0000 DFFFE E0000 EFFFE",
  "F0000 FFFFE 100000 10FFFE"]

def otherAlphabetic : CodeSet := .ofLines [
  "363 370 5B0 5BE 5BF 5C0 5C1 5C3 5C4 5C6 5C7 5C8 610 61B 64B 658 659 660 670 671 6D6 6DD 6E1",
  "6E5 6E7 6E9 6ED 6EE 711 712 730 740 7A6 7B1 816 818 81B 824 825 828 829 82D 897 898 8D4 8E0",
  "8E3 8EA 8F0 904 93A 93C 93E 94D 94E 950 955 958 962 964 981 984 9BE 9C5 9C7 9C9 9CB 9CD 9D7",
  "9D8 9E2 9E4 A01 A04 A3E A43 A47 A49 A4B A4D A51 A52 A70 A72 A75 A76 A81 A84 ABE AC6 AC7 ACA",
  "ACB ACD AE2 AE4 AFA AFD B01 B04 B3E B45 B47 B49 B4B B4D B56 B58 B62 B64 B82 B83 BBE BC3 BC6",
  "BC9 BCA BCD BD7 BD8 C00 C05 C3E C45 C46 C49 C4A C4D C55 C57 C62 C64 C81 C84 CBE CC5 CC6 CC9",
  "CCA CCD CD5 CD7 CE2 CE4 CF3 CF4 D00 D04 D3E D45 D46 D49 D4A D4D D57 D58 D62 D64 D81 D84 DCF",
  "DD5 DD6 DD7 DD8 DE0 DF2 DF4 E31 E32 E34 E3B E4D E4E EB1 EB2 EB4 EBA EBB EBD ECD ECE F71 F84",
  "F8D F98 F99 FBD 102B 1037 1038 1039 103B 103F 1056 105A 105E 1061 1062 1065 1067 106E 1071",
  "1075 1082 108E 108F 1090 109A 109E 1712 1714 1732 1734 1752 1754 1772 1774 17B6 17C9 1885",
  "1887 18A9 18AA 1920 192C 1930 1939 1A17 1A1C 1A55 1A5F 1A61 1A75 1ABF 1AC1 1ACC 1ACF 1B00",
  "1B05 1B35 1B44 1B80 1B83 1BA1 1BAA 1BAC 1BAE 1BE7 1BF2 1C24 1C37 1DD3 1DF5 2DE0 2E00 A674",
  "A67C A69E A6A0 A802 A803 A80B A80C A823 A828 A880 A882 A8B4 A8C4 A8C5 A8C6 A8FF A900 A926",
  "A92B A947 A953 A980 A984 A9B4 A9C0 A9E5 A9E6 AA29 AA37 AA43 AA44 AA4C AA4E AA7B AA7E AAB0",
  "AAB1 AAB2 AAB5 AAB7 AAB9 AABE AABF AAEB AAF0 AAF5 AAF6 ABE3 ABEB FB1E FB1F 10376 1037B 10A01",
  "10A04 10A05 10A07 10A0C 10A10 10D24 10D28 10D69 10D6A 10EAB 10EAD 10EFC 10EFD 11000 11003",
  "11038 11046 11073 11075 11080 11083 110B0 110B9 110C2 110C3 11100 11103 11127 11133 11145",
  "11147 11180 11183 111B3 111C0 111CE 111D0 1122C 11235 11237 11238 1123E 1123F 11241 11242",
  "112DF 112E9 11300 11304 1133E 11345 11347 11349 1134B 1134D 11357 11358 11362 11364 113B8",
  "113C1 113C2 113C3 113C5 113C6 113C7 113CB 113CC 113CE 11435 11442 11443 11446 114B0 114C2",
  "115AF 115B6 115B8 115BF 115DC 115DE 11630 1163F 11640 11641 116AB 116B6 1171D 1172B 1182C",
  "11839 11930 11936 11937 11939 1193B 1193D 11940 11941 11942 11943 119D1 119D8 119DA 119E0",
  "119E4 119E5 11A01 11A0B 11A35 11A3A 11A3B 11A3F 11A51 11A5C 11A8A 11A98 11C2F 11C37 11C38",
  "11C3F 11C92 11CA8 11CA9 11CB7 11D31 11D37 11D3A 11D3B 11D3C 11D3E 11D3F 11D42 11D43 11D44",
  "11D47 11D48 11D8A 11D8F 11D90 11D92 11D93 11D97 11EF3 11EF7 11F00 11F02 11F03 11F04 11F34",
  "11F3B 11F3E 11F41 1611E 1612F 16F4F 16F50 16F51 16F88 16F8F 16F93 16FF0 16FF2 1BC9E 1BC9F",
  "1E000 1E007 1E008 1E019 1E01B 1E022 1E023 1E025 1E026 1E02B 1E08F 1E090 1E947 1E948"]

def otherDefaultIgnorableCodePoint : CodeSet := .ofLines [
  "34F 350 115F 1161 17B4 17B6 2065 2066 3164 3165 FFA0 FFA1 FFF0 FFF9 E0000 E0001 E0002 E0020",
  "E0080 E0100 E01F0 E1000"]

def otherGraphemeExtend : CodeSet := .ofLines [
  "9BE 9BF 9D7 9D8 B3E B3F B57 B58 BBE BBF BD7 BD8 CC0 CC1 CC2 CC3 CC7 CC9 CCA CCC CD5 CD7 D3E",
  "D3F D57 D58 DCF DD0 DDF DE0 1715 1716 1734 1735 1B35 1B36 1B3B 1B3C 1B3D 1B3E 1B43 1B45 1BAA",
  "1BAB 1BF2 1BF4 200C 200D 302E 3030 A953 A954 A9C0 A9C1 FF9E FFA0 111C0 111C1 11235 11236",
  "1133E 1133F 1134D 1134E 11357 11358 113B8 113B9 113C2 113C3 113C5 113C6 113C7 113CA 113CF",
  "113D0 114B0 114B1 114BD 114BE 115AF 115B0 116B6 116B7 11930 11931 1193D 1193E 11F41 11F42",
  "16FF0 16FF2 1D165 1D167 1D16D 1D173 E0020 E0080"]

def otherIDContinue : CodeSet := .ofLines [
  "B7 B8 387 388 1369 1372 19DA 19DB 200C 200E 30FB 30FC FF65 FF66"]

def otherIDStart : CodeSet := .ofLines ["1885 1887 2118 2119 212E 212F 309B 309D"]

def otherLowercase : CodeSet := .ofLines [
  "AA AB BA BB 2B0 2B9 2C0 2C2 2E0 2E5 345 346 37A 37B 10FC 10FD 1D2C 1D6B 1D78 1D79 1D9B 1DC0",
  "2071 2072 207F 2080 2090 209D 2170 2180 24D0 24EA 2C7C 2C7E A69C A69E A770 A771 A7F2 A7F5",
  "A7F8 A7FA AB5C AB60 AB69 AB6A 10780 10781 10783 10786 10787 107B1 107B2 107BB 1E030 1E06E"]

def otherMath : CodeSet := .ofLines [
  "5E 5F 3D0 3D3 3D5 3D6 3F0 3F2 3F4 3F6 2016 2017 2032 2035 2040 2041 2061 2065 207D 207F 208D",
  "208F 20D0 20DD 20E1 20E2 20E5 20E7 20EB 20F0 2102 2103 2107 2108 210A 2114 2115 2116 2119",
  "211E 2124 2125 2128 212A 212C 212E 212F 2132 2133 2139 213C 2140 2145 214A 2195 219A 219C",
  "21A0 21A1 21A3 21A4 21A6 21A7 21A8 21A9 21AE 21B0 21B2 21B6 21B8 21BC 21CE 21D0 21D2 21D3",
  "21D4 21D5 21DC 21DD 21DE 21E4 21E6 2308 230C 23B4 23B6 23B7 23B8 23D0 23D1 23E2 23E3 25A0",
  "25A2 25AE 25B7 25BC 25C1 25C6 25C8 25CA 25CC 25CF 25D4 25E2 25E3 25E4 25E5 25E7 25ED 2605",
  "2607 2640 2641 2642 2643 2660 2664 266D 266F 27C5 27C7 27E6 27F0 2983 2999 29D8 29DC 29FC",
  "29FE FE61 FE62 FE63 FE64 FE68 FE69 FF3C FF3D FF3E FF3F 1D400 1D455 1D456 1D49D 1D49E 1D4A0",
  "1D4A2 1D4A3 1D4A5 1D4A7 1D4A9 1D4AD 1D4AE 1D4BA 1D4BB 1D4BC 1D4BD 1D4C4 1D4C5 1D506 1D507",
  "1D50B 1D50D 1D515 1D516 1D51D 1D51E 1D53A 1D53B 1D53F 1D540 1D545 1D546 1D547 1D54A 1D551",
  "1D552 1D6A6 1D6A8 1D6C1 1D6C2 1D6DB 1D6DC 1D6FB 1D6FC 1D715 1D716 1D735 1D736 1D74F 1D750",
  "1D76F 1D770 1D789 1D78A 1D7A9 1D7AA 1D7C3 1D7C4 1D7CC 1D7CE 1D800 1EE00 1EE04 1EE05 1EE20",
  "1EE21 1EE23 1EE24 1EE25 1EE27 1EE28 1EE29 1EE33 1EE34 1EE38 1EE39 1EE3A 1EE3B 1EE3C 1EE42",
  "1EE43 1EE47 1EE48 1EE49 1EE4A 1EE4B 1EE4C 1EE4D 1EE50 1EE51 1EE53 1EE54 1EE55 1EE57 1EE58",
  "1EE59 1EE5A 1EE5B 1EE5C 1EE5D 1EE5E 1EE5F 1EE60 1EE61 1EE63 1EE64 1EE65 1EE67 1EE6B 1EE6C",
  "1EE73 1EE74 1EE78 1EE79 1EE7D 1EE7E 1EE7F 1EE80 1EE8A 1EE8B 1EE9C 1EEA1 1EEA4 1EEA5 1EEAA",
  "1EEAB 1EEBC"]

def otherUppercase : CodeSet := .ofLines [
  "2160 2170 24B6 24D0 1F130 1F14A 1F150 1F16A 1F170 1F18A"]

def patternSyntax : CodeSet := .ofLines [
  "21 30 3A 41 5B 5F 60 61 7B 7F A1 A8 A9 AA AB AD AE AF B0 B2 B6 B7 BB BC BF C0 D7 D8 F7 F8",
  "2010 2028 2030 203F 2041 2054 2055 205F 2190 2460 2500 2776 2794 2C00 2E00 2E80 3001 3004",
  "3008 3021 3030 3031 FD3E FD40 FE45 FE47"]

def patternWhiteSpace : CodeSet := .ofLines ["9 E 20 21 85 86 200E 2010 2028 202A"]

def prependedConcatenationMark : CodeSet := .ofLines [
  "600 606 6DD 6DE 70F 710 890 892 8E2 8E3 110BD 110BE 110CD 110CE"]

def quotationMark : CodeSet := .ofLines [
  "22 23 27 28 AB AC BB BC 2018 2020 2039 203B 2E42 2E43 300C 3010 301D 3020 FE41 FE45 FF02",
  "FF03 FF07 FF08 FF62 FF64"]

def radical : CodeSet := .ofLines ["2E80 2E9A 2E9B 2EF4 2F00 2FD6"]

def regionalIndicator : CodeSet := .ofLines ["1F1E6 1F200"]

def sentenceTerminal : CodeSet := .ofLines [
  "21 22 2E 2F 3F 40 589 58A 61D 620 6D4 6D5 700 703 7F9 7FA 837 838 839 83A 83D 83F 964 966",
  "104A 104C 1362 1363 1367 1369 166E 166F 1735 1737 17D4 17D6 1803 1804 1809 180A 1944 1946",
  "1AA8 1AAC 1B4E 1B50 1B5A 1B5C 1B5E 1B60 1B7D 1B80 1C3B 1C3D 1C7E 1C80 2024 2025 203C 203E",
  "2047 204A 2CF9 2CFC 2E2E 2E2F 2E3C 2E3D 2E53 2E55 3002 3003 A4FF A500 A60E A610 A6F3 A6F4",
  "A6F7 A6F8 A876 A878 A8CE A8D0 A92F A930 A9C8 A9CA AA5D AA60 AAF0 AAF2 ABEB ABEC FE12 FE13",
  "FE15 FE17 FE52 FE53 FE56 FE58 FF01 FF02 FF0E FF0F FF1F FF20 FF61 FF62 10A56 10A58 10F55",
  "10F5A 10F86 10F8A 11047 11049 110BE 110C2 11141 11144 111C5 111C7 111CD 111CE 111DE 111E0",
  "11238 1123A 1123B 1123D 112A9 112AA 113D4 113D6 1144B 1144D 115C2 115C4 115C9 115D8 11641",
  "11643 1173C 1173F 11944 11945 11946 11947 11A42 11A44 11A9B 11A9D 11C41 11C43 11EF7 11EF9",
  "11F43 11F45 16A6E 16A70 16AF5 16AF6 16B37 16B39 16B44 16B45 16D6E 16D70 16E98 16E99 1BC9F",
  "1BCA0 1DA88 1DA89"]

def softDotted : CodeSet := .ofLines [
  "69 6B 12F 130 249 24A 268 269 29D 29E 2B2 2B3 3F3 3F4 456 457 458 459 1D62 1D63 1D96 1D97",
  "1DA4 1DA5 1DA8 1DA9 1E2D 1E2E 1ECB 1ECC 2071 2072 2148 214A 2C7C 2C7D 1D422 1D424 1D456",
  "1D458 1D48A 1D48C 1D4BE 1D4C0 1D4F2 1D4F4 1D526 1D528 1D55A 1D55C 1D58E 1D590 1D5C2 1D5C4",
  "1D5F6 1D5F8 1D62A 1D62C 1D65E 1D660 1D692 1D694 1DF1A 1DF1B 1E04C 1E04E 1E068 1E069"]

def terminalPunctuation : CodeSet := .ofLines [
  "21 22 2C 2D 2E 2F 3A 3C 3F 40 37E 37F 387 388 589 58A 5C3 5C4 60C 60D 61B 61C 61D 620 6D4",
  "6D5 700 70B 70C 70D 7F8 7FA 830 836 837 83F 85E 85F 964 966 E5A E5C F08 F09 F0D F13 104A",
  "104C 1361 1369 166E 166F 16EB 16EE 1735 1737 17D4 17D7 17DA 17DB 1802 1806 1808 180A 1944",
  "1946 1AA8 1AAC 1B4E 1B50 1B5A 1B5C 1B5D 1B60 1B7D 1B80 1C3B 1C40 1C7E 1C80 2024 2025 203C",
  "203E 2047 204A 2CF9 2CFC 2E2E 2E2F 2E3C 2E3D 2E41 2E42 2E4C 2E4D 2E4E 2E50 2E53 2E55 3001",
  "3003 A4FE A500 A60D A610 A6F3 A6F8 A876 A878 A8CE A8D0 A92F A930 A9C7 A9CA AA5D AA60 AADF",
  "AAE0 AAF0 AAF2 ABEB ABEC FE12 FE13 FE15 FE17 FE50 FE53 FE54 FE58 FF01 FF02 FF0C FF0D FF0E",
  "FF0F FF1A FF1C FF1F FF20 FF61 FF62 FF64 FF65 1039F 103A0 103D0 103D1 10857 10858 1091F 10920",
  "10A56 10A58 10AF0 10AF6 10B3A 10B40 10B99 10B9D 10F55 10F5A 10F86 10F8A 11047 1104E 110BE",
  "110C2 11141 11144 111C5 111C7 111CD 111CE 111DE 111E0 11238 1123D 112A9 112AA 113D4 113D6",
  "1144B 1144E 1145A 1145C 115C2 115C6 115C9 115D8 11641 11643 1173C 1173F 11944 11945 11946",
  "11947 11A42 11A44 11A9B 11A9D 11AA1 11AA3 11C41 11C44 11C71 11C72 11EF7 11EF9 11F43 11F45",
  "12470 12475 16A6E 16A70 16AF5 16AF6 16B37 16B3A 16B44 16B45 16D6E 16D70 16E97 16E99 1BC9F",
  "1BCA0 1DA87 1DA8B"]

/-- Characters that change to upper case or to title case, but not to both. -/
def titlecaseStable : CodeSet := .ofLines [
  "1C4 1C6 1C7 1C9 1CA 1CC 1F1 1F3 10D0 10FB 10FD 1100 1F88 1F90 1F98 1FA0 1FA8 1FB0 1FBC 1FBD",
  "1FCC 1FCD 1FFC 1FFD"]

def unifiedIdeograph : CodeSet := .ofLines [
  "3400 4DC0 4E00 A000 FA0E FA10 FA11 FA12 FA13 FA15 FA1F FA20 FA21 FA22 FA23 FA25 FA27 FA2A",
  "20000 2A6E0 2A700 2B73A 2B740 2B81E 2B820 2CEA2 2CEB0 2EBE1 2EBF0 2EE5E 30000 3134B 31350",
  "323B0"]

def variationSelector : CodeSet := .ofLines ["180B 180E 180F 1810 FE00 FE10 E0100 E01F0"]

end PipeArrow.Unicode.Listed
