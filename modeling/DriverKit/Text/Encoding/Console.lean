import DriverKit.Text.Encoding.CodePage

/-!
# Console code pages

The code pages of text consoles. Many of their octets are lines and blocks for drawing boxes. The
octets below 128 are the characters below 128, but for one page.
-/

namespace DriverKit.Text.Encoding

def consolePages : List CodePage :=
  [{ names := ["cp437", "437", "cspc8codepage437", "ibm437"]
     first := 128
     characters :=
      "ÇüéâäàåçêëèïîìÄÅÉæÆôöòûùÿÖÜ¢£¥₧ƒáíóúñÑªº¿⌐¬½¼¡«»░▒▓│┤╡╢╖╕╣║╗╝╜╛┐└┴┬├─┼╞╟╚╔╩╦╠═╬╧╨╤╥╙╘╒╓╫"
      ++ "╪┘┌█▄▌▐▀αßΓπΣσµτΦΘΩδ∞φε∩≡±≥≤⌠⌡÷≈°∙·√\u207F²■\xA0" },
   { names := ["cp720"]
     first := 128
     characters :=
      "\x80\x81éâ\x84à\x86çêëèïî\x8D\x8E\x8F\x90\u0651\u0652ô¤\u0640ûù\u0621\u0622\u0623\u0624£"
      ++ "\u0625\u0626\u0627\u0628\u0629\u062A\u062B\u062C\u062D\u062E\u062F\u0630\u0631\u0632"
      ++ "\u0633\u0634\u0635«»░▒▓│┤╡╢╖╕╣║╗╝╜╛┐└┴┬├─┼╞╟╚╔╩╦╠═╬╧╨╤╥╙╘╒╓╫╪┘┌█▄▌▐▀\u0636\u0637\u0638"
      ++ "\u0639\u063A\u0641µ\u0642\u0643\u0644\u0645\u0646\u0647\u0648\u0649\u064A≡\u064B\u064C"
      ++ "\u064D\u064E\u064F\u0650≈°∙·√\u207F²■\xA0" },
   { names := ["cp737"]
     first := 128
     characters :=
      "ΑΒΓΔΕΖΗΘΙΚΛΜΝΞΟΠΡΣΤΥΦΧΨΩαβγδεζηθικλμνξοπρσςτυφχψ░▒▓│┤╡╢╖╕╣║╗╝╜╛┐└┴┬├─┼╞╟╚╔╩╦╠═╬╧╨╤╥╙╘╒╓╫"
      ++ "╪┘┌█▄▌▐▀ωάέήϊίόύϋώΆΈΉΊΌΎΏ±≥≤ΪΫ÷≈°∙·√\u207F²■\xA0" },
   { names := ["cp775", "775", "cspc775baltic", "ibm775"]
     first := 128
     characters :=
      "ĆüéāäģåćłēŖŗīŹÄÅÉæÆōöĢ¢ŚśÖÜø£Ø×¤ĀĪóŻżź”¦©®¬½¼Ł«»░▒▓│┤ĄČĘĖ╣║╗╝ĮŠ┐└┴┬├─┼ŲŪ╚╔╩╦╠═╬Žąčęėįšųū"
      ++ "ž┘┌█▄▌▐▀ÓßŌŃõÕµńĶķĻļņĒŅ’\xAD±“¾¶§÷„°∙·¹³²■\xA0" },
   { names := ["cp850", "850", "cspc850multilingual", "ibm850"]
     first := 128
     characters :=
      "ÇüéâäàåçêëèïîìÄÅÉæÆôöòûùÿÖÜø£Ø×ƒáíóúñÑªº¿®¬½¼¡«»░▒▓│┤ÁÂÀ©╣║╗╝¢¥┐└┴┬├─┼ãÃ╚╔╩╦╠═╬¤ðÐÊËÈıÍÎ"
      ++ "Ï┘┌█▄¦Ì▀ÓßÔÒõÕµþÞÚÛÙýÝ\xAF\xB4\xAD±‗¾¶§÷\xB8°\xA8·¹³²■\xA0" },
   { names := ["cp852", "852", "cspcp852", "ibm852"]
     first := 128
     characters :=
      "ÇüéâäůćçłëŐőîŹÄĆÉĹĺôöĽľŚśÖÜŤťŁ×čáíóúĄąŽžĘę¬źČş«»░▒▓│┤ÁÂĚŞ╣║╗╝Żż┐└┴┬├─┼Ăă╚╔╩╦╠═╬¤đĐĎËďŇÍÎ"
      ++ "ě┘┌█▄ŢŮ▀ÓßÔŃńňŠšŔÚŕŰýÝţ\xB4\xAD\u02DD\u02DB\u02C7\u02D8§÷\xB8°\xA8\u02D9űŘř■\xA0" },
   { names := ["cp855", "855", "csibm855", "ibm855"]
     first := 128
     characters :=
      "ђЂѓЃёЁєЄѕЅіІїЇјЈљЉњЊћЋќЌўЎџЏюЮъЪаАбБцЦдДеЕфФгГ«»░▒▓│┤хХиИ╣║╗╝йЙ┐└┴┬├─┼кК╚╔╩╦╠═╬¤лЛмМнНоО"
      ++ "п┘┌█▄Пя▀ЯрРсСтТуУжЖвВьЬ№\xADыЫзЗшШэЭщЩчЧ§■\xA0" },
   { names := ["cp856"]
     first := 128
     characters :=
      "\u05D0\u05D1\u05D2\u05D3\u05D4\u05D5\u05D6\u05D7\u05D8\u05D9\u05DA\u05DB\u05DC\u05DD"
      ++ "\u05DE\u05DF\u05E0\u05E1\u05E2\u05E3\u05E4\u05E5\u05E6\u05E7\u05E8\u05E9\u05EA\uFFFD£"
      ++ "\uFFFD×\uFFFD\uFFFD\uFFFD\uFFFD\uFFFD\uFFFD\uFFFD\uFFFD\uFFFD\uFFFD®¬½¼\uFFFD«»░▒▓│┤"
      ++ "\uFFFD\uFFFD\uFFFD©╣║╗╝¢¥┐└┴┬├─┼\uFFFD\uFFFD╚╔╩╦╠═╬¤\uFFFD\uFFFD\uFFFD\uFFFD\uFFFD\uFFFD"
      ++ "\uFFFD\uFFFD\uFFFD┘┌█▄¦\uFFFD▀\uFFFD\uFFFD\uFFFD\uFFFD\uFFFD\uFFFDµ\uFFFD\uFFFD\uFFFD"
      ++ "\uFFFD\uFFFD\uFFFD\uFFFD\xAF\xB4\xAD±‗¾¶§÷\xB8°\xA8·¹³²■\xA0" },
   { names := ["cp857", "857", "csibm857", "ibm857"]
     first := 128
     characters :=
      "ÇüéâäàåçêëèïîıÄÅÉæÆôöòûùİÖÜø£ØŞşáíóúñÑĞğ¿®¬½¼¡«»░▒▓│┤ÁÂÀ©╣║╗╝¢¥┐└┴┬├─┼ãÃ╚╔╩╦╠═╬¤ºªÊËÈ"
      ++ "\uFFFDÍÎÏ┘┌█▄¦Ì▀ÓßÔÒõÕµ\uFFFD×ÚÛÙìÿ\xAF\xB4\xAD±\uFFFD¾¶§÷\xB8°\xA8·¹³²■\xA0" },
   { names := ["cp858", "858", "csibm858", "ibm858"]
     first := 128
     characters :=
      "ÇüéâäàåçêëèïîìÄÅÉæÆôöòûùÿÖÜø£Ø×ƒáíóúñÑªº¿®¬½¼¡«»░▒▓│┤ÁÂÀ©╣║╗╝¢¥┐└┴┬├─┼ãÃ╚╔╩╦╠═╬¤ðÐÊËÈ€ÍÎ"
      ++ "Ï┘┌█▄¦Ì▀ÓßÔÒõÕµþÞÚÛÙýÝ\xAF\xB4\xAD±‗¾¶§÷\xB8°\xA8·¹³²■\xA0" },
   { names := ["cp860", "860", "csibm860", "ibm860"]
     first := 128
     characters :=
      "ÇüéâãàÁçêÊèÍÔìÃÂÉÀÈôõòÚùÌÕÜ¢£Ù₧ÓáíóúñÑªº¿Ò¬½¼¡«»░▒▓│┤╡╢╖╕╣║╗╝╜╛┐└┴┬├─┼╞╟╚╔╩╦╠═╬╧╨╤╥╙╘╒╓╫"
      ++ "╪┘┌█▄▌▐▀αßΓπΣσµτΦΘΩδ∞φε∩≡±≥≤⌠⌡÷≈°∙·√\u207F²■\xA0" },
   { names := ["cp861", "861", "cp_is", "csibm861", "ibm861"]
     first := 128
     characters :=
      "ÇüéâäàåçêëèÐðÞÄÅÉæÆôöþûÝýÖÜø£Ø₧ƒáíóúÁÍÓÚ¿⌐¬½¼¡«»░▒▓│┤╡╢╖╕╣║╗╝╜╛┐└┴┬├─┼╞╟╚╔╩╦╠═╬╧╨╤╥╙╘╒╓╫"
      ++ "╪┘┌█▄▌▐▀αßΓπΣσµτΦΘΩδ∞φε∩≡±≥≤⌠⌡÷≈°∙·√\u207F²■\xA0" },
   { names := ["cp862", "862", "cspc862latinhebrew", "ibm862"]
     first := 128
     characters :=
      "\u05D0\u05D1\u05D2\u05D3\u05D4\u05D5\u05D6\u05D7\u05D8\u05D9\u05DA\u05DB\u05DC\u05DD"
      ++ "\u05DE\u05DF\u05E0\u05E1\u05E2\u05E3\u05E4\u05E5\u05E6\u05E7\u05E8\u05E9\u05EA¢£¥₧ƒáíóúñ"
      ++ "Ñªº¿⌐¬½¼¡«»░▒▓│┤╡╢╖╕╣║╗╝╜╛┐└┴┬├─┼╞╟╚╔╩╦╠═╬╧╨╤╥╙╘╒╓╫╪┘┌█▄▌▐▀αßΓπΣσµτΦΘΩδ∞φε∩≡±≥≤⌠⌡÷≈°∙·√"
      ++ "\u207F²■\xA0" },
   { names := ["cp863", "863", "csibm863", "ibm863"]
     first := 128
     characters :=
      "ÇüéâÂà¶çêëèïî‗À§ÉÈÊôËÏûù¤ÔÜ¢£ÙÛƒ¦\xB4óú\xA8\xB8³\xAFÎ⌐¬½¼¾«»░▒▓│┤╡╢╖╕╣║╗╝╜╛┐└┴┬├─┼╞╟╚╔╩╦"
      ++ "╠═╬╧╨╤╥╙╘╒╓╫╪┘┌█▄▌▐▀αßΓπΣσµτΦΘΩδ∞φε∩≡±≥≤⌠⌡÷≈°∙·√\u207F²■\xA0" },
   { names := ["cp864", "864", "csibm864", "ibm864"]
     first := 0
     characters :=
      "\x00\x01\x02\x03\x04\x05\x06\x07\x08\t\n\x0B\x0C\r\x0E\x0F\x10\x11\x12\x13\x14\x15\x16"
      ++ "\x17\x18\x19\x1A\x1B\x1C\x1D\x1E\x1F !\"#$٪&'()*+,-./0123456789:;<=>?@ABCDEFGHIJKLMNOPQR"
      ++ "STUVWXYZ[\\]\x5E_\x60abcdefghijklmnopqrstuvwxyz\x7b|\x7d~\x7F°·∙√▒─│┼┤┬├┴┐┌└┘β∞φ±½¼≈«»"
      ++ "\uFEF7\uFEF8\uFFFD\uFFFD\uFEFB\uFEFC\uFFFD\xA0\xAD\uFE82£¤\uFE84\uFFFD\uFFFD\uFE8E\uFE8F"
      ++ "\uFE95\uFE99،\uFE9D\uFEA1\uFEA5\u0660\u0661\u0662\u0663\u0664\u0665\u0666\u0667\u0668"
      ++ "\u0669\uFED1\u061B\uFEB1\uFEB5\uFEB9\u061F¢\uFE80\uFE81\uFE83\uFE85\uFECA\uFE8B\uFE8D"
      ++ "\uFE91\uFE93\uFE97\uFE9B\uFE9F\uFEA3\uFEA7\uFEA9\uFEAB\uFEAD\uFEAF\uFEB3\uFEB7\uFEBB"
      ++ "\uFEBF\uFEC1\uFEC5\uFECB\uFECF¦¬÷×\uFEC9\u0640\uFED3\uFED7\uFEDB\uFEDF\uFEE3\uFEE7\uFEEB"
      ++ "\uFEED\uFEEF\uFEF3\uFEBD\uFECC\uFECE\uFECD\uFEE1\uFE7D\u0651\uFEE5\uFEE9\uFEEC\uFEF0"
      ++ "\uFEF2\uFED0\uFED5\uFEF5\uFEF6\uFEDD\uFED9\uFEF1■\uFFFD" },
   { names := ["cp865", "865", "csibm865", "ibm865"]
     first := 128
     characters :=
      "ÇüéâäàåçêëèïîìÄÅÉæÆôöòûùÿÖÜø£Ø₧ƒáíóúñÑªº¿⌐¬½¼¡«¤░▒▓│┤╡╢╖╕╣║╗╝╜╛┐└┴┬├─┼╞╟╚╔╩╦╠═╬╧╨╤╥╙╘╒╓╫"
      ++ "╪┘┌█▄▌▐▀αßΓπΣσµτΦΘΩδ∞φε∩≡±≥≤⌠⌡÷≈°∙·√\u207F²■\xA0" },
   { names := ["cp866", "866", "csibm866", "ibm866"]
     first := 128
     characters :=
      "АБВГДЕЖЗИЙКЛМНОПРСТУФХЦЧШЩЪЫЬЭЮЯабвгдежзийклмноп░▒▓│┤╡╢╖╕╣║╗╝╜╛┐└┴┬├─┼╞╟╚╔╩╦╠═╬╧╨╤╥╙╘╒╓╫"
      ++ "╪┘┌█▄▌▐▀рстуфхцчшщъыьэюяЁёЄєЇїЎў°∙·√№¤■\xA0" },
   { names := ["cp869", "869", "cp_gr", "csibm869", "ibm869"]
     first := 128
     characters :=
      "\uFFFD\uFFFD\uFFFD\uFFFD\uFFFD\uFFFDΆ\uFFFD·¬¦‘’Έ―ΉΊΪΌ\uFFFD\uFFFDΎΫ©Ώ²³ά£έήίϊΐόύΑΒΓΔΕΖΗ"
      ++ "½ΘΙ«»░▒▓│┤ΚΛΜΝ╣║╗╝ΞΟ┐└┴┬├─┼ΠΡ╚╔╩╦╠═╬ΣΤΥΦΧΨΩαβγ┘┌█▄δε▀ζηθικλμνξοπρσςτ\u0384\xAD±υφχ§ψ"
      ++ "\u0385°\xA8ωϋΰώ■\xA0" },
   { names := ["cp1006"]
     first := 128
     characters :=
      "\x80\x81\x82\x83\x84\x85\x86\x87\x88\x89\x8A\x8B\x8C\x8D\x8E\x8F\x90\x91\x92\x93\x94\x95"
      ++ "\x96\x97\x98\x99\x9A\x9B\x9C\x9D\x9E\x9F\xA0۰۱۲۳۴۵۶۷۸۹،\u061B\xAD\u061F\uFE81\uFE8D"
      ++ "\uFFFD\uFE8E\uFE8F\uFE91\uFB56\uFB58\uFE93\uFE95\uFE97\uFB66\uFB68\uFE99\uFE9B\uFE9D"
      ++ "\uFE9F\uFB7A\uFB7C\uFEA1\uFEA3\uFEA5\uFEA7\uFEA9\uFB84\uFEAB\uFEAD\uFB8C\uFEAF\uFB8A"
      ++ "\uFEB1\uFEB3\uFEB5\uFEB7\uFEB9\uFEBB\uFEBD\uFEBF\uFEC1\uFEC5\uFEC9\uFECA\uFECB\uFECC"
      ++ "\uFECD\uFECE\uFECF\uFED0\uFED1\uFED3\uFED5\uFED7\uFED9\uFEDB\uFB92\uFB94\uFEDD\uFEDF"
      ++ "\uFEE0\uFEE1\uFEE3\uFB9E\uFEE5\uFEE7\uFE85\uFEED\uFBA6\uFBA8\uFBA9\uFBAA\uFE80\uFE89"
      ++ "\uFE8A\uFE8B\uFEF1\uFEF2\uFEF3\uFBB0\uFBAE\uFE7C\uFE7D" },
   { names := ["cp1125", "1125", "cp866u", "ibm1125", "ruscii"]
     first := 128
     characters :=
      "АБВГДЕЖЗИЙКЛМНОПРСТУФХЦЧШЩЪЫЬЭЮЯабвгдежзийклмноп░▒▓│┤╡╢╖╕╣║╗╝╜╛┐└┴┬├─┼╞╟╚╔╩╦╠═╬╧╨╤╥╙╘╒╓╫"
      ++ "╪┘┌█▄▌▐▀рстуфхцчшщъыьэюяЁёҐґЄєІіЇї·√№¤■\xA0" }]

end DriverKit.Text.Encoding
