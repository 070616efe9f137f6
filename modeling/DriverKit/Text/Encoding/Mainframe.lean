import DriverKit.Text.Encoding.CodePage

/-!
# Mainframe code pages

The code pages of mainframes, whose octets have another order altogether.
-/

namespace DriverKit.Text.Encoding

def mainframePages : List CodePage :=
  [{ names := ["cp037", "037", "csibm037", "ebcdic_cp_ca", "ebcdic_cp_nl", "ebcdic_cp_us",
      "ebcdic_cp_wt", "ibm037", "ibm039"]
     first := 0
     characters :=
      "\x00\x01\x02\x03\x9C\t\x86\x7F\x97\x8D\x8E\x0B\x0C\r\x0E\x0F\x10\x11\x12\x13\x9D\x85\x08"
      ++ "\x87\x18\x19\x92\x8F\x1C\x1D\x1E\x1F\x80\x81\x82\x83\x84\n\x17\x1B\x88\x89\x8A\x8B\x8C"
      ++ "\x05\x06\x07\x90\x91\x16\x93\x94\x95\x96\x04\x98\x99\x9A\x9B\x14\x15\x9E\x1A \xA0âäàáãåç"
      ++ "ñ¢.<(+|&éêëèíîïìß!$*);¬-/ÂÄÀÁÃÅÇÑ¦,%_>?øÉÊËÈÍÎÏÌ\x60:#@'=\"Øabcdefghi«»ðýþ±°jklmnopqrªºæ"
      ++ "\xB8Æ¤µ~stuvwxyz¡¿ÐÝÞ®\x5E£¥·©§¶¼½¾[]\xAF\xA8\xB4×\x7bABCDEFGHI\xADôöòóõ\x7dJKLMNOPQR¹ûü"
      ++ "ùúÿ\\÷STUVWXYZ²ÔÖÒÓÕ0123456789³ÛÜÙÚ\x9F" },
   { names := ["cp273", "273", "csibm273", "ibm273"]
     first := 0
     characters :=
      "\x00\x01\x02\x03\x9C\t\x86\x7F\x97\x8D\x8E\x0B\x0C\r\x0E\x0F\x10\x11\x12\x13\x9D\x85\x08"
      ++ "\x87\x18\x19\x92\x8F\x1C\x1D\x1E\x1F\x80\x81\x82\x83\x84\n\x17\x1B\x88\x89\x8A\x8B\x8C"
      ++ "\x05\x06\x07\x90\x91\x16\x93\x94\x95\x96\x04\x98\x99\x9A\x9B\x14\x15\x9E\x1A \xA0â\x7bàá"
      ++ "ãåçñÄ.<(+!&éêëèíîïì~Ü$*);\x5E-/Â[ÀÁÃÅÇÑö,%_>?øÉÊËÈÍÎÏÌ\x60:#§'=\"Øabcdefghi«»ðýþ±°jklmno"
      ++ "pqrªºæ\xB8Æ¤µßstuvwxyz¡¿ÐÝÞ®¢£¥·©@¶¼½¾¬|‾\xA8\xB4×äABCDEFGHI\xADô¦òóõüJKLMNOPQR¹û\x7dùúÿ"
      ++ "Ö÷STUVWXYZ²Ô\\ÒÓÕ0123456789³Û]ÙÚ\x9F" },
   { names := ["cp424", "424", "csibm424", "ebcdic_cp_he", "ibm424"]
     first := 0
     characters :=
      "\x00\x01\x02\x03\x9C\t\x86\x7F\x97\x8D\x8E\x0B\x0C\r\x0E\x0F\x10\x11\x12\x13\x9D\x85\x08"
      ++ "\x87\x18\x19\x92\x8F\x1C\x1D\x1E\x1F\x80\x81\x82\x83\x84\n\x17\x1B\x88\x89\x8A\x8B\x8C"
      ++ "\x05\x06\x07\x90\x91\x16\x93\x94\x95\x96\x04\x98\x99\x9A\x9B\x14\x15\x9E\x1A \u05D0"
      ++ "\u05D1\u05D2\u05D3\u05D4\u05D5\u05D6\u05D7\u05D8¢.<(+|&\u05D9\u05DA\u05DB\u05DC\u05DD"
      ++ "\u05DE\u05DF\u05E0\u05E1!$*);¬-/\u05E2\u05E3\u05E4\u05E5\u05E6\u05E7\u05E8\u05E9¦,%_>?"
      ++ "\uFFFD\u05EA\uFFFD\uFFFD\xA0\uFFFD\uFFFD\uFFFD‗\x60:#@'=\"\uFFFDabcdefghi«»\uFFFD\uFFFD"
      ++ "\uFFFD±°jklmnopqr\uFFFD\uFFFD\uFFFD\xB8\uFFFD¤µ~stuvwxyz\uFFFD\uFFFD\uFFFD\uFFFD\uFFFD®"
      ++ "\x5E£¥·©§¶¼½¾[]\xAF\xA8\xB4×\x7bABCDEFGHI\xAD\uFFFD\uFFFD\uFFFD\uFFFD\uFFFD\x7dJKLMNOPQR"
      ++ "¹\uFFFD\uFFFD\uFFFD\uFFFD\uFFFD\\÷STUVWXYZ²\uFFFD\uFFFD\uFFFD\uFFFD\uFFFD0123456789³"
      ++ "\uFFFD\uFFFD\uFFFD\uFFFD\x9F" },
   { names := ["cp500", "500", "csibm500", "ebcdic_cp_be", "ebcdic_cp_ch", "ibm500"]
     first := 0
     characters :=
      "\x00\x01\x02\x03\x9C\t\x86\x7F\x97\x8D\x8E\x0B\x0C\r\x0E\x0F\x10\x11\x12\x13\x9D\x85\x08"
      ++ "\x87\x18\x19\x92\x8F\x1C\x1D\x1E\x1F\x80\x81\x82\x83\x84\n\x17\x1B\x88\x89\x8A\x8B\x8C"
      ++ "\x05\x06\x07\x90\x91\x16\x93\x94\x95\x96\x04\x98\x99\x9A\x9B\x14\x15\x9E\x1A \xA0âäàáãåç"
      ++ "ñ[.<(+!&éêëèíîïìß]$*);\x5E-/ÂÄÀÁÃÅÇÑ¦,%_>?øÉÊËÈÍÎÏÌ\x60:#@'=\"Øabcdefghi«»ðýþ±°jklmnopqr"
      ++ "ªºæ\xB8Æ¤µ~stuvwxyz¡¿ÐÝÞ®¢£¥·©§¶¼½¾¬|\xAF\xA8\xB4×\x7bABCDEFGHI\xADôöòóõ\x7dJKLMNOPQR¹ûü"
      ++ "ùúÿ\\÷STUVWXYZ²ÔÖÒÓÕ0123456789³ÛÜÙÚ\x9F" },
   { names := ["cp875"]
     first := 0
     characters :=
      "\x00\x01\x02\x03\x9C\t\x86\x7F\x97\x8D\x8E\x0B\x0C\r\x0E\x0F\x10\x11\x12\x13\x9D\x85\x08"
      ++ "\x87\x18\x19\x92\x8F\x1C\x1D\x1E\x1F\x80\x81\x82\x83\x84\n\x17\x1B\x88\x89\x8A\x8B\x8C"
      ++ "\x05\x06\x07\x90\x91\x16\x93\x94\x95\x96\x04\x98\x99\x9A\x9B\x14\x15\x9E\uFFFD ΑΒΓΔΕΖΗΘΙ"
      ++ "[.<(+!&ΚΛΜΝΞΟΠΡΣ]$*);\x5E-/ΤΥΦΧΨΩΪΫ|,%_>?\xA8ΆΈΉ\xA0ΊΌΎΏ\x60:#@'=\"\u0385abcdefghiαβγδεζ"
      ++ "°jklmnopqrηθικλμ\xB4~stuvwxyzνξοπρσ£άέήϊίόύϋώςτυφχψ\x7bABCDEFGHI\xADωΐΰ‘―\x7dJKLMNOPQR±½"
      ++ "\uFFFD·’¦\\\uFFFDSTUVWXYZ²§\uFFFD\uFFFD«¬0123456789³©\uFFFD\x1A»\x9F" },
   { names := ["cp1026", "1026", "csibm1026", "ibm1026"]
     first := 0
     characters :=
      "\x00\x01\x02\x03\x9C\t\x86\x7F\x97\x8D\x8E\x0B\x0C\r\x0E\x0F\x10\x11\x12\x13\x9D\x85\x08"
      ++ "\x87\x18\x19\x92\x8F\x1C\x1D\x1E\x1F\x80\x81\x82\x83\x84\n\x17\x1B\x88\x89\x8A\x8B\x8C"
      ++ "\x05\x06\x07\x90\x91\x16\x93\x94\x95\x96\x04\x98\x99\x9A\x9B\x14\x15\x9E\x1A \xA0âäàáãå"
      ++ "\x7bñÇ.<(+!&éêëèíîïìßĞİ*);\x5E-/ÂÄÀÁÃÅ[Ñş,%_>?øÉÊËÈÍÎÏÌı:ÖŞ'=ÜØabcdefghi«»\x7d\x60¦±°jkl"
      ++ "mnopqrªºæ\xB8Æ¤µöstuvwxyz¡¿]$@®¢£¥·©§¶¼½¾¬|\xAF\xA8\xB4×çABCDEFGHI\xADô~òóõğJKLMNOPQR¹û"
      ++ "\\ùúÿü÷STUVWXYZ²Ô#ÒÓÕ0123456789³Û\"ÙÚ\x9F" },
   { names := ["cp1140", "1140", "ibm1140"]
     first := 0
     characters :=
      "\x00\x01\x02\x03\x9C\t\x86\x7F\x97\x8D\x8E\x0B\x0C\r\x0E\x0F\x10\x11\x12\x13\x9D\x85\x08"
      ++ "\x87\x18\x19\x92\x8F\x1C\x1D\x1E\x1F\x80\x81\x82\x83\x84\n\x17\x1B\x88\x89\x8A\x8B\x8C"
      ++ "\x05\x06\x07\x90\x91\x16\x93\x94\x95\x96\x04\x98\x99\x9A\x9B\x14\x15\x9E\x1A \xA0âäàáãåç"
      ++ "ñ¢.<(+|&éêëèíîïìß!$*);¬-/ÂÄÀÁÃÅÇÑ¦,%_>?øÉÊËÈÍÎÏÌ\x60:#@'=\"Øabcdefghi«»ðýþ±°jklmnopqrªºæ"
      ++ "\xB8Æ€µ~stuvwxyz¡¿ÐÝÞ®\x5E£¥·©§¶¼½¾[]\xAF\xA8\xB4×\x7bABCDEFGHI\xADôöòóõ\x7dJKLMNOPQR¹ûü"
      ++ "ùúÿ\\÷STUVWXYZ²ÔÖÒÓÕ0123456789³ÛÜÙÚ\x9F" }]

end DriverKit.Text.Encoding
