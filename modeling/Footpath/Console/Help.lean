/-! The help text of the console. -/
namespace Footpath

def helpText : String := "
═══════════════════════════════════════════════════════════════
                   GraphPath 命令帮助
═══════════════════════════════════════════════════════════════

语句:
  ./outE                           从 $_ 出发导航
  ./outE[@label='knows']/inV       链式步骤与谓词过滤
  $x := ./outE[@weight > 0.5]      绑定变量
  $x[@weight > 0.5]                过滤已有变量
  g:id('1')                        按 ID 查找元素

内置步骤:
  outE  inE  outV  inV  bothV  both

命名路径 (多行输入，以 end 结束):
  path knows
  ./outE[@label='knows']
  end

谓词:
  @name = 'marko'   @weight >= 0.5   @active = true
  @label, @id       元素标签与 ID
  and / or / ( )    组合条件，and 优先

═══════════════════════════════════════════════════════════════
控制台命令 (以 : 开头)
═══════════════════════════════════════════════════════════════

  :help, :h              显示帮助
  :quit, :q              退出程序
  :vars                  列出变量
  :paths                 列出命名路径
  :stats                 图与会话统计
  :format <mode>         输出格式: table, vertical, json
  :reset                 清空路径和变量 (保留 --start 初始的 $_)
  :tee [-o] <file>       输出同时写入文件 (-o 覆盖)
  :notee                 停止写入文件
  :clear                 清屏

提示: 在语句末尾加 \\G 可垂直显示结果

═══════════════════════════════════════════════════════════════
"

end Footpath
